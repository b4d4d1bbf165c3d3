import Mathlib.Tactic.Common
import TiledView.Callback.Basic

/-!
# Numbers as document engines write them

An engine writes a number in decimal, a row as its numbers with commas in between, and a matrix as
rows that each end in a semicolon.  Blanks may stand before a number, and the semicolon after the
last row may be left out if that row has a number.  `Numerals.WrittenNumber.bytes`,
`Numerals.writtenRow` and `Numerals.writtenRows` say so.

**Reading what was written.**  Every reader stops exactly behind what was written for it: a number
ends at the first byte that is no digit (`Numerals.number_decimal`), a row behind its semicolon
(`Numerals.list_writtenRow`), and a matrix with the last row (`Numerals.matrix_writtenRows`).  So no
row runs into the next one, an empty row included, and a callback decodes to the rows that were
written (`Payload.decode_written`).
-/

namespace TiledView

/-! ## Text of single bytes -/

namespace Bytes

lemma toList_loop (bytes : ByteArray) (index : Nat) (before : Bytes) :
    ByteArray.toList.loop bytes index before =
      before.reverse ++ bytes.data.toList.drop index := by
  fun_induction ByteArray.toList.loop bytes index before with
  | case1 index before inside ih =>
      have here : bytes.data.toList.drop index =
          bytes.get! index :: bytes.data.toList.drop (index + 1) := by
        rw [List.drop_eq_getElem_cons (by simpa using inside)]
        congr 1
        exact (getElem!_pos bytes.data index inside).symm
      rw [ih, here, List.reverse_cons, List.append_assoc, List.singleton_append]
  | case2 index before outside =>
      have nothing : bytes.data.toList.drop index = [] := by simpa using outside
      rw [nothing, List.append_nil]

/-- The bytes of a text are those of its characters, one after the other. -/
lemma ofText_ofList (cs : List Char) :
    ofText (String.ofList cs) = cs.flatMap String.utf8EncodeChar := by
  rw [ofText, ByteArray.toList, toList_loop]
  simp [List.utf8Encode]

end Bytes

namespace Numerals

/-! ## Numbers -/

/-- A number in decimal. -/
def decimal (n : Nat) : Bytes := .ofText (toString n)

/-- The byte of a digit. -/
def digit (n : Nat) : UInt8 := 48 + n.toUInt8

lemma toNat_digit {n : Nat} (lt : n < 10) : (digit n).toNat = 48 + n := by
  simp [digit]
  omega

lemma isDigit_digit {n : Nat} (lt : n < 10) : isDigit (digit n) = true := by
  have value := toNat_digit lt
  simp [isDigit, UInt8.le_iff_toNat_le, value]
  omega

lemma toUInt64_digit {n : Nat} (lt : n < 10) : (digit n - 48).toUInt64 = .ofNat n := by
  decide +revert

lemma utf8EncodeChar_digitChar {n : Nat} (lt : n < 10) :
    String.utf8EncodeChar n.digitChar = [digit n] := by
  decide +revert

/-- The last digit is the remainder by ten, and the others are those of the quotient. -/
lemma decimal_eq (n : Nat) :
    decimal n = (if n < 10 then [] else decimal (n / 10)) ++ [digit (n % 10)] := by
  have last : n % 10 < 10 := Nat.mod_lt n (by decide)
  simp only [decimal, Nat.toString_eq_ofList_toDigits, Bytes.ofText_ofList]
  rw [Nat.toDigits_eq_if (by decide)]
  split_ifs with small
  · rw [Nat.mod_eq_of_lt small, List.flatMap_singleton, utf8EncodeChar_digitChar small,
      List.nil_append]
  · rw [List.flatMap_append, List.flatMap_singleton, utf8EncodeChar_digitChar last]

lemma isDigit_of_mem_decimal {n : Nat} {b : UInt8} (mem : b ∈ decimal n) : isDigit b = true := by
  induction n using Nat.strongRecOn with
  | ind n ih =>
      rw [decimal_eq, List.mem_append, List.mem_singleton] at mem
      rcases mem with before | rfl
      · split_ifs at before with small
        · exact absurd before List.not_mem_nil
        · exact ih (n / 10) (by omega) before
      · exact isDigit_digit (Nat.mod_lt n (by decide))

/-- Digits are read back modulo `2 ^ 64`. -/
lemma ofDigits_decimal (n : Nat) : ofDigits (decimal n) = .ofNat n := by
  induction n using Nat.strongRecOn with
  | ind n ih =>
      have last : n % 10 < 10 := Nat.mod_lt n (by decide)
      have before : ofDigits (if n < 10 then [] else decimal (n / 10)) = .ofNat (n / 10) := by
        split_ifs with small
        · rw [Nat.div_eq_of_lt small]
          rfl
        · exact ih (n / 10) (by omega)
      have next : (UInt64.ofNat (n / 10) * 10 + .ofNat (n % 10)) = .ofNat n := by
        rw [show (10 : UInt64) = .ofNat 10 from rfl, ← UInt64.ofNat_mul, ← UInt64.ofNat_add,
          Nat.div_add_mod' n 10]
      rw [decimal_eq, ofDigits, List.foldl_append, ← ofDigits, before, List.foldl_cons,
        List.foldl_nil, toUInt64_digit last, next]

/-- A number ends where no digit follows. -/
def Ends (rest : Bytes) : Prop := ∀ b ∈ rest.head?, isDigit b = false

/-- **A number is read up to its last digit.** -/
lemma number_decimal {rest : Bytes} (ends : Ends rest) (n : Nat) :
    number (decimal n ++ rest) = (.ofNat n, rest) := by
  have digits : ∀ b ∈ decimal n, isDigit b = true := fun _ => isDigit_of_mem_decimal
  have none : rest.takeWhile isDigit = [] ∧ rest.dropWhile isDigit = rest := by
    cases rest with
    | nil => exact ⟨rfl, rfl⟩
    | cons b rest =>
        have other : isDigit b = false := ends b rfl
        simp [other]
  rw [number, List.takeWhile_append_of_pos digits, List.dropWhile_append_of_pos digits, none.1,
    none.2, List.append_nil, ofDigits_decimal]

/-! ## Rows -/

/-- A number of a row, and the blanks before it. -/
structure WrittenNumber where
  blanks : Bytes
  value : UInt64
  allBlank : ∀ b ∈ blanks, isBlank b = true

/-- A number as it stands in a row. -/
def WrittenNumber.bytes (n : WrittenNumber) : Bytes := n.blanks ++ decimal n.value.toNat

/-- The values of a row. -/
def values (row : List WrittenNumber) : List UInt64 := row.map (·.value)

/-- A row: its numbers, with commas in between. -/
def writtenRow (row : List WrittenNumber) : Bytes :=
  [comma].intercalate (row.map WrittenNumber.bytes)

/-- Rows one after the other, each ended by a semicolon. -/
def writtenRows (rows : List (List WrittenNumber)) : Bytes :=
  rows.flatMap fun row => writtenRow row ++ [semicolon]

/-! ## Reading rows -/

/-- The digits of a number begin with a digit. -/
lemma decimal_eq_cons (n : Nat) : ∃ d digits, decimal n = d :: digits ∧ isDigit d = true := by
  cases found : decimal n with
  | nil =>
      rw [decimal_eq] at found
      simp at found
  | cons d digits =>
      exact ⟨d, digits, rfl, isDigit_of_mem_decimal (found ▸ List.mem_cons_self)⟩

lemma not_separator_of_isDigit {b : UInt8} (digit : isDigit b = true) :
    isBlank b = false ∧ b ≠ semicolon ∧ b ≠ comma ∧ b ≠ Payload.openBrace := by
  simp only [isDigit, Bool.and_eq_true, decide_eq_true_eq] at digit
  refine ⟨?_, ?_, ?_, ?_⟩
  · simp only [isBlank]
    grind
  all_goals
    rintro rfl
    exact absurd digit (by decide)

lemma not_separator_of_isBlank {b : UInt8} (blank : isBlank b = true) :
    b ≠ semicolon ∧ b ≠ comma ∧ b ≠ Payload.openBrace := by
  refine ⟨?_, ?_, ?_⟩
  all_goals
    rintro rfl
    exact absurd blank (by decide)

/-- A number begins with a blank or a digit. -/
lemma WrittenNumber.bytes_eq_cons (n : WrittenNumber) :
    ∃ b rest, n.bytes = b :: rest ∧ b ≠ semicolon ∧ b ≠ comma ∧ b ≠ Payload.openBrace := by
  obtain ⟨d, digits, eq, digit⟩ := decimal_eq_cons n.value.toNat
  cases blanks : n.blanks with
  | nil =>
      refine ⟨d, digits, ?_, (not_separator_of_isDigit digit).2⟩
      rw [WrittenNumber.bytes, blanks, List.nil_append, eq]
  | cons b rest =>
      have blank : isBlank b = true := n.allBlank b (blanks ▸ List.mem_cons_self)
      refine ⟨b, rest ++ decimal n.value.toNat, ?_, not_separator_of_isBlank blank⟩
      rw [WrittenNumber.bytes, blanks, List.cons_append]

/-- The blanks before a number are skipped, and nothing of the number. -/
lemma skipBlanks_bytes (n : WrittenNumber) (rest : Bytes) :
    skipBlanks (n.bytes ++ rest) = decimal n.value.toNat ++ rest := by
  obtain ⟨d, digits, eq, digit⟩ := decimal_eq_cons n.value.toNat
  have printed : isBlank d = false := (not_separator_of_isDigit digit).1
  rw [WrittenNumber.bytes, List.append_assoc, skipBlanks, List.dropWhile_append_of_pos n.allBlank,
    eq]
  simp [printed]

/-- A list goes on with a number. -/
lemma list_decimal {b : UInt8} {rest left : Bytes} {n : Nat} (other : b ≠ semicolon)
    (ends : Ends left) (skipped : skipBlanks (if b = comma then rest else b :: rest) =
      decimal n ++ left) : list (b :: rest) = (.ofNat n :: (list left).1, (list left).2) := by
  obtain ⟨d, digits, eq, digit⟩ := decimal_eq_cons n
  rw [eq, List.cons_append] at skipped
  -- The reader looks at the first digit before it reads the number from there.
  have read : number (d :: (digits ++ left)) = (.ofNat n, left) := by
    rw [← List.cons_append, ← eq, number_decimal ends]
  rw [list, if_neg other]
  split
  · next none =>
      rw [skipped] at none
      exact absurd none (List.cons_ne_nil _ _)
  · next d' digits' found =>
      rw [skipped] at found
      obtain ⟨rfl, rfl⟩ := List.cons.inj found
      rw [dif_pos digit, read]

/-- The first number of a row is read, and then what follows it. -/
lemma list_bytes {rest : Bytes} (ends : Ends rest) (n : WrittenNumber) :
    list (n.bytes ++ rest) = (n.value :: (list rest).1, (list rest).2) := by
  obtain ⟨b, more, eq, notSemicolon, notComma, -⟩ := n.bytes_eq_cons
  have skipped := skipBlanks_bytes n rest
  rw [eq, List.cons_append] at skipped ⊢
  rw [list_decimal notSemicolon ends (by rw [if_neg notComma, skipped]), UInt64.ofNat_toNat]

/-- A further number of a row is read behind its comma. -/
lemma list_comma_bytes {rest : Bytes} (ends : Ends rest) (n : WrittenNumber) :
    list (comma :: (n.bytes ++ rest)) = (n.value :: (list rest).1, (list rest).2) := by
  rw [list_decimal (by decide) ends (by rw [if_pos rfl, skipBlanks_bytes]), UInt64.ofNat_toNat]

lemma writtenRow_cons (n : WrittenNumber) (row : List WrittenNumber) :
    writtenRow (n :: row) = n.bytes ++ row.flatMap fun n => comma :: n.bytes := by
  rw [writtenRow, List.map_cons]
  induction row generalizing n with
  | nil => simp
  | cons m row ih =>
      rw [List.map_cons, List.intercalate_cons_cons, ih m, List.flatMap_cons, List.append_assoc,
        List.cons_append, List.cons_append, List.nil_append]

lemma writtenRow_ne_nil {row : List WrittenNumber} (some : row ≠ []) : writtenRow row ≠ [] := by
  obtain ⟨n, row, rfl⟩ := List.exists_cons_of_ne_nil some
  obtain ⟨b, rest, eq, -⟩ := n.bytes_eq_cons
  rw [writtenRow_cons, eq]
  exact List.cons_ne_nil _ _

/-- What comes after a row: the row ends there, and `left` is left to be read. -/
structure EndsRow (after left : Bytes) : Prop where
  ends : Ends after
  list_eq : list after = ([], left)

lemma endsRow_semicolon (rest : Bytes) : EndsRow (semicolon :: rest) rest where
  ends := by
    rintro _ ⟨⟩
    decide
  list_eq := by rw [list, if_pos rfl]

lemma endsRow_nil : EndsRow [] [] where
  ends := nofun
  list_eq := by rw [list]

lemma list_tail {after left : Bytes} (stop : EndsRow after left) (row : List WrittenNumber) :
    Ends ((row.flatMap fun n => comma :: n.bytes) ++ after) ∧
      list ((row.flatMap fun n => comma :: n.bytes) ++ after) = (values row, left) := by
  induction row with
  | nil => exact ⟨stop.ends, stop.list_eq⟩
  | cons n row ih =>
      simp only [List.flatMap_cons, List.cons_append, List.append_assoc]
      refine ⟨?_, ?_⟩
      · rintro _ ⟨⟩
        decide
      · rw [list_comma_bytes ih.1, ih.2, values, values, List.map_cons]

/-- **A row is read up to its end.** -/
lemma list_writtenRow {after left : Bytes} (stop : EndsRow after left)
    (row : List WrittenNumber) : list (writtenRow row ++ after) = (values row, left) := by
  cases row with
  | nil => exact stop.list_eq
  | cons n row =>
      obtain ⟨ends, read⟩ := list_tail stop row
      rw [writtenRow_cons, List.append_assoc, list_bytes ends, read, values, values, List.map_cons]

/-! ## Reading matrices -/

lemma matrix_nil : matrix [] = ([], []) := by
  rw [matrix, endsRow_nil.list_eq, if_neg (Nat.lt_irrefl _)]

/-- **A matrix goes on behind its rows.** -/
lemma matrix_writtenRows (rows : List (List WrittenNumber)) (rest : Bytes) :
    matrix (writtenRows rows ++ rest) = (rows.map values ++ (matrix rest).1, (matrix rest).2) := by
  induction rows with
  | nil => rfl
  | cons row rows ih =>
      have read := list_writtenRow (endsRow_semicolon (writtenRows rows ++ rest)) row
      have here : writtenRows (row :: rows) ++ rest =
          writtenRow row ++ semicolon :: (writtenRows rows ++ rest) := by
        simp [writtenRows]
      rw [here, matrix, read, if_pos (by simp; omega), ih, List.map_cons, List.cons_append]

/-- A last row without a semicolon. -/
lemma matrix_writtenRow {row : List WrittenNumber} (some : row ≠ []) :
    matrix (writtenRow row) = ([values row], []) := by
  have read := list_writtenRow endsRow_nil row
  have consumed : 0 < (writtenRow row).length := List.length_pos_iff.2 (writtenRow_ne_nil some)
  rw [List.append_nil] at read
  rw [matrix, read]
  simp only [List.length_nil, if_pos consumed, matrix_nil]

end Numerals

/-! ## Decoding what was written -/

namespace Payload

open Numerals

variable {code : Int}

lemma decode_matrix (shape : (CallbackInfo.ofCode code).shape = .numericMatrix) {bytes : Bytes}
    (nonempty : bytes ≠ []) : decode code (some bytes) = .matrix (Numerals.matrix bytes).1 := by
  obtain ⟨first, rest, rfl⟩ := List.exists_cons_of_ne_nil nonempty
  rw [decode, decodeWith, shape]

lemma decode_list (shape : (CallbackInfo.ofCode code).shape = .numericList) {b : UInt8}
    {rest : Bytes} (numeric : b ≠ openBrace) :
    decode code (some (b :: rest)) = .list (Numerals.list (b :: rest)).1 := by
  rw [decode, decodeWith, shape]
  exact if_neg numeric

/-- A payload that begins with a row, whatever comes after it, is decoded to that row. -/
lemma decode_writtenRow (shape : (CallbackInfo.ofCode code).shape = .numericList)
    {after left : Bytes} (stop : EndsRow after left) {row : List WrittenNumber}
    (nonempty : row ≠ [] ∨ ∃ rest, after = semicolon :: rest) :
    decode code (some (writtenRow row ++ after)) = .list (values row) := by
  have read := list_writtenRow stop row
  cases row with
  | nil =>
      obtain ⟨rest, rfl⟩ := nonempty.resolve_left (not_not_intro rfl)
      rw [show writtenRow [] = [] from rfl, List.nil_append] at read ⊢
      rw [decode_list shape (by decide), read]
  | cons n row =>
      obtain ⟨b, rest, eq, -, -, numeric⟩ := n.bytes_eq_cons
      rw [writtenRow_cons, eq, List.cons_append, List.cons_append] at read ⊢
      rw [decode_list shape numeric, read]

/-- **What was written is what is decoded.**  A callback with the shape of a matrix decodes to
exactly the rows that were written, empty ones included, whether or not the last one that has a
number ends in a semicolon.  A callback with the shape of a list decodes to the first row, whatever
follows its semicolon. -/
theorem decode_written (code : Int) :
    ((CallbackInfo.ofCode code).shape = .numericMatrix →
      ∀ (rows : List (List WrittenNumber)) (last : List WrittenNumber),
        (rows ≠ [] → decode code (some (writtenRows rows)) = .matrix (rows.map values)) ∧
        (last ≠ [] → decode code (some (writtenRows rows ++ writtenRow last)) =
          .matrix ((rows ++ [last]).map values))) ∧
    ((CallbackInfo.ofCode code).shape = .numericList →
      ∀ row : List WrittenNumber,
        (∀ rest, decode code (some (writtenRow row ++ semicolon :: rest)) = .list (values row)) ∧
        (row ≠ [] → decode code (some (writtenRow row)) = .list (values row))) := by
  refine ⟨fun shape rows last => ⟨fun some => ?_, fun some => ?_⟩,
    fun shape row => ⟨fun rest => ?_, fun some => ?_⟩⟩
  · obtain ⟨row, rows, rfl⟩ := List.exists_cons_of_ne_nil some
    have read := matrix_writtenRows (row :: rows) []
    rw [List.append_nil, matrix_nil, List.append_nil] at read
    rw [decode_matrix shape (by simp [writtenRows]), read]
  · have nonempty := writtenRow_ne_nil some
    rw [decode_matrix shape (by simp [nonempty]), matrix_writtenRows, matrix_writtenRow some,
      List.map_append, List.map_singleton]
  · exact decode_writtenRow shape (endsRow_semicolon rest) (.inr ⟨rest, rfl⟩)
  · simpa only [List.append_nil] using decode_writtenRow shape endsRow_nil (.inl some)

/-- Three rows of a text selection, the first of them empty and the last without a semicolon, and a
document size with more behind it. -/
theorem decode_written_selection :
    decode CallbackKind.textSelection.code (some (.ofText ";7, \t18446744073709551615;0")) =
      .matrix [[], [7, 18446744073709551615], [0]] ∧
    decode CallbackKind.documentSizeChanged.code (some (.ofText " 12,34;]5")) = .list [12, 34] := by
  have rows :
      writtenRows [[], [⟨[], 7, nofun⟩, ⟨[32, 9], 18446744073709551615, by simp [isBlank]⟩]] ++
        writtenRow [⟨[], 0, nofun⟩] = .ofText ";7, \t18446744073709551615;0" := by
    decide +kernel
  have row :
      writtenRow [⟨[32], 12, by simp [isBlank]⟩, ⟨[], 34, nofun⟩] ++ semicolon :: [93, 53] =
        .ofText " 12,34;]5" := by
    decide +kernel
  rw [← rows, ← row]
  exact ⟨(((decode_written CallbackKind.textSelection.code).1 rfl _ _).2 nofun),
    ((decode_written CallbackKind.documentSizeChanged.code).2 rfl _).1 _⟩

end Payload

end TiledView
