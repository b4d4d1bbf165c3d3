import TiledView.Proofs.Callback.DigitRuns

/-!
# Blanks between numbers

The numbers of a row may have blanks around them: around a comma, instead of one, and before the
semicolon.  A reader skips blanks only where a number may begin, so it matters what comes after
them.

* Behind a comma, or alone between two numbers, blanks change nothing.
* Before a comma they end the list, and what comes next is read as a list of its own
  (`Numerals.Gap.joins`, `Numerals.SpacedRow.pieces`).
* Before a semicolon they end the list too, and the semicolon then ends an empty one
  (`Numerals.SpacedRow.closedPieces`).

`Numerals.matrix_spacedRows` lists the rows that are read for any row that is written so.  They are
the written ones exactly if no blank stands before a comma or a semicolon
(`Numerals.list_spaced_iff`); no number is lost either way.

A selection has no semicolon behind its numbers.  The list ends before the brace of the properties
all the same, with blanks before it or without (`Payload.decode_selection`).
-/

namespace TiledView

namespace Numerals

/-- Blanks, perhaps none. -/
structure Blanks where
  bytes : Bytes
  allBlank : ∀ b ∈ bytes, isBlank b = true

/-- What stands between two neighbours: a comma, perhaps with blanks around it, or blanks alone. -/
inductive Gap where
  | comma (before after : Blanks)
  | blanks (alone : Blanks) (nonempty : alone.bytes ≠ [])

namespace Gap

def bytes : Gap → Bytes
  | .comma before after => before.bytes ++ Numerals.comma :: after.bytes
  | .blanks alone _ => alone.bytes

/-- A list goes on across a gap unless there are blanks before its comma. -/
def joins : Gap → Bool
  | .comma before _ => before.bytes.isEmpty
  | .blanks _ _ => true

/-- The part of a gap that the next list begins with. -/
def unread : Gap → Bytes
  | .comma _ after => Numerals.comma :: after.bytes
  | .blanks _ _ => []

end Gap

/-- Further numbers of a row, each behind its gap. -/
def further (more : List (Gap × UInt64)) : Bytes :=
  more.flatMap fun (gap, n) => gap.bytes ++ decimal n.toNat

/-- A row with a number at least, and blanks wherever they may be meant to stand. -/
structure SpacedRow where
  first : UInt64
  more : List (Gap × UInt64)
  trailing : Blanks

/-- The lists that are read for numbers: they are cut at every gap that does not join. -/
def pieces (n : UInt64) : List (Gap × UInt64) → List (List UInt64)
  | [] => [[n]]
  | (gap, m) :: more =>
    if gap.joins then (pieces m more).modifyHead (n :: ·) else [n] :: pieces m more

namespace SpacedRow

def bytes (row : SpacedRow) : Bytes :=
  decimal row.first.toNat ++ (further row.more ++ row.trailing.bytes)

def values (row : SpacedRow) : List UInt64 := row.first :: row.more.map Prod.snd

/-- No blank stands before a comma. -/
def Joins (row : SpacedRow) : Prop := ∀ step ∈ row.more, step.1.joins = true

instance (row : SpacedRow) : Decidable row.Joins :=
  inferInstanceAs (Decidable (∀ step ∈ row.more, step.1.joins = true))

/-- No blank stands before a comma or the semicolon. -/
structure Tight (row : SpacedRow) : Prop where
  joins : row.Joins
  noneTrailing : row.trailing.bytes = []

/-- The lists that are read for a row at the end of a payload. -/
def openPieces (row : SpacedRow) : List (List UInt64) := pieces row.first row.more

/-- The lists that are read for a row with its semicolon. -/
def closedPieces (row : SpacedRow) : List (List UInt64) :=
  row.openPieces ++ if row.trailing.bytes.isEmpty then [] else [[]]

end SpacedRow

/-- Rows that each end in a semicolon, and perhaps one more without. -/
def spacedRows (rows : List SpacedRow) (last? : Option SpacedRow) : Bytes :=
  (rows.flatMap fun row => row.bytes ++ [semicolon]) ++ last?.toList.flatMap SpacedRow.bytes

/-! ## Reading across blanks -/

lemma skipBlanks_append (blanks : Blanks) (rest : Bytes) :
    skipBlanks (blanks.bytes ++ rest) = skipBlanks rest :=
  List.dropWhile_append_of_pos blanks.allBlank

/-- A list that begins with blanks ends unless a number follows them. -/
lemma list_blanks {blanks : Blanks} (nonempty : blanks.bytes ≠ []) (rest : Bytes) :
    list (blanks.bytes ++ rest) = atNumber (skipBlanks rest) := by
  rw [← skipBlanks_append blanks rest]
  obtain ⟨b, more, eq⟩ := List.exists_cons_of_ne_nil nonempty
  obtain ⟨notSemicolon, notComma, -⟩ :=
    not_separator_of_isBlank (blanks.allBlank b (eq ▸ List.mem_cons_self))
  rw [eq, List.cons_append, list_cons_of_ne notSemicolon notComma]

lemma list_comma (rest : Bytes) : list (comma :: rest) = atNumber (skipBlanks rest) := by
  rw [list_cons, if_neg (by decide), if_pos rfl]

lemma list_number {left : Bytes} (ends : Ends left) (n : UInt64) :
    list (decimal n.toNat ++ left) = (n :: (list left).1, (list left).2) :=
  list_bytes ends ⟨[], n, nofun⟩

/-- Once blanks are skipped, a number is read as it is at the start of a list. -/
lemma atNumber_decimal {left : Bytes} (ends : Ends left) (n : UInt64) :
    atNumber (skipBlanks (decimal n.toNat ++ left)) = (n :: (list left).1, (list left).2) := by
  rw [← list_number ends]
  obtain ⟨d, digits, eq, digit⟩ := decimal_eq_cons n.toNat
  obtain ⟨-, notSemicolon, notComma, -⟩ := not_separator_of_isDigit digit
  rw [eq, List.cons_append, list_cons_of_ne notSemicolon notComma]

/-- A list may begin with a comma. -/
lemma list_comma_number {left : Bytes} (ends : Ends left) (after : Blanks) (n : UInt64) :
    list (comma :: (after.bytes ++ (decimal n.toNat ++ left))) =
      (n :: (list left).1, (list left).2) := by
  rw [list_comma, skipBlanks_append, atNumber_decimal ends]

/-- A list goes on across a gap that joins. -/
lemma list_gap_of_joins {left : Bytes} (ends : Ends left) {gap : Gap} (joins : gap.joins = true)
    (n : UInt64) :
    list (gap.bytes ++ (decimal n.toNat ++ left)) = (n :: (list left).1, (list left).2) := by
  cases gap with
  | comma before after =>
      have none : before.bytes = [] := List.isEmpty_iff.1 joins
      rw [Gap.bytes, none, List.nil_append, List.cons_append, list_comma_number ends]
  | blanks alone nonempty => rw [Gap.bytes, list_blanks nonempty, atNumber_decimal ends]

/-- **Blanks before a comma end a list.**  The comma is left. -/
lemma list_gap_of_cut {gap : Gap} (cut : gap.joins = false) (rest : Bytes) :
    list (gap.bytes ++ rest) = ([], gap.unread ++ rest) := by
  cases gap with
  | comma before after =>
      have some : before.bytes ≠ [] := List.isEmpty_eq_false_iff.1 cut
      rw [Gap.bytes, List.append_assoc, list_blanks some, List.cons_append,
        skipBlanks_of_not_blank (by decide)]
      rfl
  | blanks alone nonempty => exact absurd cut (by simp [Gap.joins])

/-- The next list begins with that comma. -/
lemma list_unread {left : Bytes} (ends : Ends left) {gap : Gap} (cut : gap.joins = false)
    (n : UInt64) : list (gap.unread ++ (decimal n.toNat ++ left)) =
      (n :: (list left).1, (list left).2) := by
  cases gap with
  | comma before after => exact list_comma_number ends after n
  | blanks alone nonempty => exact absurd cut (by simp [Gap.joins])

/-! ## Where numbers end -/

lemma ends_of_not_digit {b : UInt8} (other : isDigit b = false) (rest : Bytes) :
    Ends (b :: rest) := by
  rintro _ ⟨⟩
  exact other

lemma ends_blanks {blanks : Blanks} {after : Bytes} (ends : blanks.bytes = [] → Ends after) :
    Ends (blanks.bytes ++ after) := by
  cases eq : blanks.bytes with
  | nil => exact ends eq
  | cons b rest =>
      exact ends_of_not_digit
        (not_digit_of_isBlank (blanks.allBlank b (eq ▸ List.mem_cons_self))) _

lemma ends_gap (gap : Gap) (rest : Bytes) : Ends (gap.bytes ++ rest) := by
  cases gap with
  | comma before after =>
      rw [Gap.bytes, List.append_assoc]
      exact ends_blanks fun _ => ends_of_not_digit (by decide) _
  | blanks alone nonempty => exact ends_blanks fun none => absurd none nonempty

lemma ends_further {after : Bytes} (ends : Ends after) (more : List (Gap × UInt64)) :
    Ends (further more ++ after) := by
  cases more with
  | nil => exact ends
  | cons step more =>
      rw [further, List.flatMap_cons, List.append_assoc, List.append_assoc]
      exact ends_gap step.1 _

lemma further_cons (gap : Gap) (n : UInt64) (more : List (Gap × UInt64)) (after : Bytes) :
    further ((gap, n) :: more) ++ after =
      gap.bytes ++ (decimal n.toNat ++ (further more ++ after)) := by
  simp only [further, List.flatMap_cons, List.append_assoc]

/-- Blanks at the end of a payload end a row. -/
lemma endsRow_blanks (blanks : Blanks) : EndsRow (blanks.bytes ++ []) [] where
  ends := ends_blanks fun _ => endsRow_nil.ends
  list_eq := by
    by_cases none : blanks.bytes = []
    · rw [none]
      exact endsRow_nil.list_eq
    · rw [list_blanks none]
      rfl

/-- Blanks before a semicolon end a row as well, and leave the semicolon. -/
lemma endsRow_blanks_semicolon (blanks : Blanks) (rest : Bytes) :
    EndsRow (blanks.bytes ++ semicolon :: rest)
      (if blanks.bytes.isEmpty then rest else semicolon :: rest) where
  ends := ends_blanks fun _ => (endsRow_semicolon rest).ends
  list_eq := by
    split_ifs with none
    · rw [List.isEmpty_iff.1 none, List.nil_append, (endsRow_semicolon rest).list_eq]
    · rw [list_blanks (by simpa using none), skipBlanks_of_not_blank (by decide)]
      rfl

/-! ## One list -/

/-- **Numbers are read up to the end of their row exactly if all gaps join.** -/
lemma list_further_iff {after stopped left : Bytes} (stop : EndsRow after stopped)
    (more : List (Gap × UInt64)) :
    list (further more ++ after) = (more.map Prod.snd, left) ↔
      (∀ step ∈ more, step.1.joins = true) ∧ stopped = left := by
  induction more with
  | nil => simp [further, stop.list_eq]
  | cons step more ih =>
      obtain ⟨gap, n⟩ := step
      rw [further_cons, List.forall_mem_cons, List.map_cons]
      cases joins : gap.joins with
      | true =>
          rw [list_gap_of_joins (ends_further stop.ends more) joins]
          simp only [List.cons.injEq, true_and, ← ih, Prod.ext_iff]
      | false =>
          rw [list_gap_of_cut joins]
          simp

namespace SpacedRow

lemma bytes_append (row : SpacedRow) (after : Bytes) :
    row.bytes ++ after =
      decimal row.first.toNat ++ (further row.more ++ (row.trailing.bytes ++ after)) := by
  simp only [bytes, List.append_assoc]

lemma list_iff (row : SpacedRow) {after stopped left : Bytes}
    (stop : EndsRow (row.trailing.bytes ++ after) stopped) :
    list (row.bytes ++ after) = (row.values, left) ↔ row.Joins ∧ stopped = left := by
  rw [bytes_append, list_number (ends_further stop.ends row.more), values, Joins,
    ← list_further_iff stop]
  simp only [List.cons.injEq, true_and, Prod.ext_iff]

end SpacedRow

/-! ## A matrix -/

lemma matrix_of_list {bytes left : Bytes} {row : List UInt64} (read : list bytes = (row, left))
    (consumed : left.length < bytes.length) :
    matrix bytes = (row :: (matrix left).1, (matrix left).2) := by
  rw [matrix, read, if_pos consumed]

/-- A number in front of a list goes into the first row. -/
lemma matrix_of_list_cons {bytes rest : Bytes} {n : UInt64}
    (read : list bytes = (n :: (list rest).1, (list rest).2))
    (consumed : (list rest).2.length < rest.length) (shorter : rest.length < bytes.length) :
    matrix bytes = ((matrix rest).1.modifyHead (n :: ·), (matrix rest).2) := by
  rw [matrix_of_list read (Nat.lt_trans consumed shorter), matrix_of_list rfl consumed,
    List.modifyHead_cons]

lemma pieces_ne_nil (n : UInt64) (more : List (Gap × UInt64)) : pieces n more ≠ [] := by
  fun_induction pieces n more with
  | case1 => exact List.cons_ne_nil _ _
  | case2 n gap m more joins ih => simpa using ih
  | case3 => exact List.cons_ne_nil _ _

lemma length_lt_decimal (start : Bytes) (n : Nat) (rest : Bytes) :
    rest.length < (start ++ (decimal n ++ rest)).length := by
  obtain ⟨d, digits, eq, -⟩ := decimal_eq_cons n
  simp only [eq, List.length_append, List.length_cons]
  omega

lemma length_list_le (bytes : Bytes) : (list bytes).2.length ≤ bytes.length :=
  (list_takes bytes).length_le

/-- **A row is cut at its gaps that do not join.**  The first piece begins wherever its number is
read, be that at the start of a row or behind a comma. -/
lemma matrix_pieces {after left bytes : Bytes} (stop : EndsRow after left) {n : UInt64}
    {more : List (Gap × UInt64)}
    (read : list bytes =
      (n :: (list (further more ++ after)).1, (list (further more ++ after)).2))
    (shorter : (further more ++ after).length < bytes.length) :
    matrix bytes = (pieces n more ++ (matrix left).1, (matrix left).2) := by
  fun_induction pieces n more generalizing bytes with
  | case1 n =>
      have le := length_list_le after
      simp only [further, List.flatMap_nil, List.nil_append] at read shorter
      rw [stop.list_eq] at read le
      exact matrix_of_list read (Nat.lt_of_le_of_lt le shorter)
  | case2 n gap m more joins ih =>
      -- What is read behind the gap goes on with the same row.
      rw [further_cons] at read shorter
      have next := list_gap_of_joins (ends_further stop.ends more) joins m
      have lt := length_lt_decimal gap.bytes m.toNat (further more ++ after)
      have consumed := Nat.lt_of_le_of_lt (length_list_le (further more ++ after)) lt
      rw [matrix_of_list_cons read (next ▸ consumed) shorter, ih next lt]
      obtain ⟨first, others, eq⟩ := List.exists_cons_of_ne_nil (pieces_ne_nil m more)
      rw [eq, List.cons_append, List.modifyHead_cons, List.modifyHead_cons, List.cons_append]
  | case3 n gap m more cut ih =>
      -- The row ends here, and the comma that is left begins the next one.
      rw [further_cons] at read shorter
      have cut : gap.joins = false := Bool.eq_false_iff.2 cut
      have le := length_list_le (gap.bytes ++ (decimal m.toNat ++ (further more ++ after)))
      rw [list_gap_of_cut cut] at read le
      rw [matrix_of_list read (Nat.lt_of_le_of_lt le shorter),
        ih (list_unread (ends_further stop.ends more) cut m) (length_lt_decimal ..),
        List.cons_append]

lemma matrix_semicolon (rest : Bytes) :
    matrix (semicolon :: rest) = ([] :: (matrix rest).1, (matrix rest).2) :=
  matrix_of_list (endsRow_semicolon rest).list_eq (Nat.lt_succ_self _)

namespace SpacedRow

lemma matrix_bytes_append (row : SpacedRow) {after left : Bytes}
    (stop : EndsRow (row.trailing.bytes ++ after) left) :
    matrix (row.bytes ++ after) = (row.openPieces ++ (matrix left).1, (matrix left).2) := by
  rw [bytes_append]
  exact matrix_pieces stop (list_number (ends_further stop.ends row.more) row.first)
    (length_lt_decimal [] row.first.toNat _)

lemma matrix_closed (row : SpacedRow) (rest : Bytes) :
    matrix (row.bytes ++ semicolon :: rest) =
      (row.closedPieces ++ (matrix rest).1, (matrix rest).2) := by
  rw [matrix_bytes_append row (endsRow_blanks_semicolon row.trailing rest), closedPieces]
  split_ifs
  · rw [List.append_nil]
  · rw [matrix_semicolon, List.append_assoc, List.singleton_append]

lemma matrix_open (row : SpacedRow) : matrix row.bytes = (row.openPieces, []) := by
  have read := matrix_bytes_append row (endsRow_blanks row.trailing)
  rwa [List.append_nil, matrix_nil, List.append_nil] at read

end SpacedRow

/-- **What is read for rows with blanks in them.** -/
lemma matrix_spacedRows (rows : List SpacedRow) (last? : Option SpacedRow) :
    matrix (spacedRows rows last?) =
      (rows.flatMap SpacedRow.closedPieces ++ last?.toList.flatMap SpacedRow.openPieces, []) := by
  induction rows with
  | nil =>
      cases last? with
      | none => exact matrix_nil
      | some row => simpa [spacedRows] using row.matrix_open
  | cons row rows ih =>
      have here : spacedRows (row :: rows) last? =
          row.bytes ++ semicolon :: spacedRows rows last? := by
        simp [spacedRows]
      rw [here, row.matrix_closed, ih, List.flatMap_cons, List.append_assoc]

/-! ## When nothing is cut -/

lemma length_pieces (n : UInt64) (more : List (Gap × UInt64)) :
    (pieces n more).length = more.countP (fun step => !step.1.joins) + 1 := by
  fun_induction pieces n more with
  | case1 => rfl
  | case2 n gap m more joins ih => simpa [joins] using ih
  | case3 n gap m more cut ih => simpa [cut] using ih

lemma flatten_pieces (n : UInt64) (more : List (Gap × UInt64)) :
    (pieces n more).flatten = n :: more.map Prod.snd := by
  fun_induction pieces n more with
  | case1 => rfl
  | case2 n gap m more joins ih =>
      obtain ⟨first, others, eq⟩ := List.exists_cons_of_ne_nil (pieces_ne_nil m more)
      rw [eq, List.flatten_cons] at ih
      rw [eq, List.modifyHead_cons, List.flatten_cons, List.cons_append, ih, List.map_cons]
  | case3 n gap m more cut ih => rw [List.flatten_cons, ih, List.map_cons, List.singleton_append]

/-- One list is all of its numbers. -/
lemma eq_singleton_of_length {lists : List (List UInt64)} (one : lists.length = 1) :
    lists = [lists.flatten] := by
  obtain ⟨list, rfl⟩ := List.length_eq_one_iff.1 one
  simp

namespace SpacedRow

lemma length_openPieces_eq_one_iff (row : SpacedRow) :
    row.openPieces.length = 1 ↔ row.Joins := by
  rw [openPieces, length_pieces, Joins]
  simp [List.countP_eq_zero]

lemma length_openPieces_pos (row : SpacedRow) : 1 ≤ row.openPieces.length :=
  List.length_pos_iff.2 (pieces_ne_nil row.first row.more)

lemma length_closedPieces_pos (row : SpacedRow) : 1 ≤ row.closedPieces.length := by
  have := row.length_openPieces_pos
  rw [closedPieces, List.length_append]
  omega

lemma length_closedPieces_eq_one_iff (row : SpacedRow) :
    row.closedPieces.length = 1 ↔ row.Tight := by
  have pos := row.length_openPieces_pos
  have joins := row.length_openPieces_eq_one_iff
  rw [closedPieces, List.length_append]
  split_ifs with none
  · exact ⟨fun one => ⟨joins.1 one, List.isEmpty_iff.1 none⟩, fun tight => joins.2 tight.joins⟩
  · refine ⟨fun one => ?_, fun tight => absurd (List.isEmpty_iff.2 tight.noneTrailing) none⟩
    rw [List.length_singleton] at one
    omega

lemma flatten_openPieces (row : SpacedRow) : row.openPieces.flatten = row.values :=
  flatten_pieces row.first row.more

lemma flatten_closedPieces (row : SpacedRow) : row.closedPieces.flatten = row.values := by
  rw [closedPieces, List.flatten_append, flatten_openPieces]
  split_ifs <;> simp

end SpacedRow

section ReadRows

variable {read : SpacedRow → List (List UInt64)} (pos : ∀ row, 1 ≤ (read row).length)
  (whole : ∀ row, (read row).flatten = row.values)

include pos in
lemma length_le_flatMap (rows : List SpacedRow) : rows.length ≤ (rows.flatMap read).length := by
  induction rows with
  | nil => exact Nat.le_refl 0
  | cons row rows ih =>
      have := pos row
      rw [List.flatMap_cons, List.length_append, List.length_cons]
      omega

include pos in
/-- As many lists as rows are read only if every row is read as one. -/
lemma length_eq_one_of_flatMap {rows : List SpacedRow}
    (same : (rows.flatMap read).length = rows.length) : ∀ row ∈ rows, (read row).length = 1 := by
  induction rows with
  | nil => exact nofun
  | cons row rows ih =>
      have here := pos row
      have rest := length_le_flatMap pos rows
      rw [List.flatMap_cons, List.length_append, List.length_cons] at same
      exact List.forall_mem_cons.2 ⟨by omega, ih (by omega)⟩

include whole in
lemma flatMap_eq_map {rows : List SpacedRow} (one : ∀ row ∈ rows, (read row).length = 1) :
    rows.flatMap read = rows.map SpacedRow.values := by
  induction rows with
  | nil => rfl
  | cons row rows ih =>
      obtain ⟨here, rest⟩ := List.forall_mem_cons.1 one
      rw [List.flatMap_cons, eq_singleton_of_length here, whole row, ih rest, List.map_cons,
        List.singleton_append]

include whole in
lemma flatten_flatMap (rows : List SpacedRow) :
    (rows.flatMap read).flatten = rows.flatMap SpacedRow.values := by
  induction rows with
  | nil => rfl
  | cons row rows ih =>
      rw [List.flatMap_cons, List.flatten_append, whole row, ih, List.flatMap_cons]

end ReadRows

/-- **The rows that are read are the written ones exactly if none is cut.** -/
lemma matrix_spacedRows_iff (rows : List SpacedRow) (last? : Option SpacedRow) :
    (matrix (spacedRows rows last?)).1 = (rows ++ last?.toList).map SpacedRow.values ↔
      (∀ row ∈ rows, row.Tight) ∧ ∀ row ∈ last?, row.Joins := by
  have closedLe := length_le_flatMap SpacedRow.length_closedPieces_pos rows
  have openLe := length_le_flatMap SpacedRow.length_openPieces_pos last?.toList
  simp only [matrix_spacedRows, ← SpacedRow.length_closedPieces_eq_one_iff,
    ← SpacedRow.length_openPieces_eq_one_iff]
  refine ⟨fun same => ?_, fun ⟨closed, opened⟩ => ?_⟩
  · have lengths := congrArg List.length same
    simp only [List.length_append, List.length_map] at lengths
    have closedEq : (rows.flatMap SpacedRow.closedPieces).length = rows.length := by omega
    have openEq : (last?.toList.flatMap SpacedRow.openPieces).length = last?.toList.length := by
      omega
    exact ⟨length_eq_one_of_flatMap SpacedRow.length_closedPieces_pos closedEq, fun row mem =>
      length_eq_one_of_flatMap SpacedRow.length_openPieces_pos openEq row
        (Option.mem_toList.2 mem)⟩
  · rw [flatMap_eq_map SpacedRow.flatten_closedPieces closed,
      flatMap_eq_map SpacedRow.flatten_openPieces fun row mem =>
        opened row (Option.mem_toList.1 mem), List.map_append]

/-- **Where blanks separate numbers, and where they end a list.**  A list has all numbers of a row
and ends behind its semicolon exactly if no blank stands before a comma or that semicolon; at the
end of a payload blanks do no harm.  The same holds of a matrix.  Otherwise its rows are cut before
each comma with blanks before it, and blanks before a semicolon make one more row of no numbers; the
numbers are all there, and in their order. -/
theorem list_spaced_iff (row : SpacedRow) (rest : Bytes) (rows : List SpacedRow)
    (last? : Option SpacedRow) :
    let read := matrix (spacedRows rows last?)
    (list (row.bytes ++ semicolon :: rest) = (row.values, rest) ↔ row.Tight) ∧
      (list row.bytes = (row.values, []) ↔ row.Joins) ∧
      (read.1 = (rows ++ last?.toList).map SpacedRow.values ↔
        (∀ row ∈ rows, row.Tight) ∧ ∀ row ∈ last?, row.Joins) ∧
      read = (rows.flatMap SpacedRow.closedPieces ++ last?.toList.flatMap SpacedRow.openPieces,
        []) ∧
      read.1.flatten = (rows ++ last?.toList).flatMap SpacedRow.values := by
  refine ⟨?_, ?_, matrix_spacedRows_iff rows last?, matrix_spacedRows rows last?, ?_⟩
  · rw [row.list_iff (endsRow_blanks_semicolon row.trailing rest)]
    refine ⟨fun ⟨joins, eq⟩ => ⟨joins, ?_⟩, fun tight => ⟨tight.joins, ?_⟩⟩
    · -- If the semicolon has been left, then more than `rest` has.
      split_ifs at eq with none
      · exact List.isEmpty_iff.1 none
      · exact absurd (congrArg List.length eq) (by simp)
    · rw [tight.noneTrailing]
      rfl
  · have read : list (row.bytes ++ []) = (row.values, []) ↔ row.Joins ∧ [] = [] :=
      row.list_iff (endsRow_blanks row.trailing)
    simpa only [List.append_nil, and_true] using read
  · rw [matrix_spacedRows, List.flatten_append, List.flatMap_append,
      flatten_flatMap SpacedRow.flatten_closedPieces, flatten_flatMap SpacedRow.flatten_openPieces]

/-- One blank behind a comma, one instead of a comma, and one before the end of the payload. -/
theorem list_spaced_iff_harmless :
    let row : SpacedRow :=
      ⟨12, [(.comma ⟨[], nofun⟩ ⟨[32], by simp [isBlank]⟩, 8), (.blanks ⟨[9], by simp [isBlank]⟩ nofun, 18)],
        ⟨[32], by simp [isBlank]⟩⟩
    row.Joins ∧ row.bytes = .ofText "12, 8\t18 " ∧
      list (.ofText "12, 8\t18 ") = ([12, 8, 18], []) := by
  intro row
  have joins : row.Joins := by decide
  have bytes : row.bytes = .ofText "12, 8\t18 " := by decide +kernel
  exact ⟨joins, bytes, bytes ▸ (list_spaced_iff row [] [] none).2.1.2 joins⟩

/-- A blank before a comma: the list ends there, and one row is read as two.  A blank before a
semicolon: a row of no numbers comes in between. -/
theorem row_cut_at_blank :
    let row : SpacedRow := ⟨1, [(.comma ⟨[32], by simp [isBlank]⟩ ⟨[], nofun⟩, 2)], ⟨[], nofun⟩⟩
    let first : SpacedRow := ⟨1, [], ⟨[32], by simp [isBlank]⟩⟩
    let last : SpacedRow := ⟨2, [], ⟨[], nofun⟩⟩
    (row.bytes = .ofText "1 ,2" ∧ list row.bytes = ([1], .ofText ",2") ∧
      list row.bytes ≠ (row.values, []) ∧ (matrix row.bytes).1 = [[1], [2]]) ∧
    (spacedRows [first] (some last) = .ofText "1 ;2" ∧
      (matrix (spacedRows [first] (some last))).1 = [[1], [], [2]] ∧
      (matrix (spacedRows [first] (some last))).1 ≠ [first, last].map SpacedRow.values) := by
  decide +kernel

end Numerals

/-! ## Numbers before properties -/

namespace Payload

open Numerals

/-- A list ends before a brace, whether or not blanks come first. -/
lemma endsRow_blanks_brace (blanks : Blanks) {properties : Bytes}
    (braced : ∀ b ∈ properties.head?, b = openBrace) :
    EndsRow (blanks.bytes ++ properties) properties := by
  cases properties with
  | nil => exact endsRow_blanks blanks
  | cons b rest =>
      obtain rfl : b = openBrace := braced b rfl
      have printed : skipBlanks (openBrace :: rest) = openBrace :: rest :=
        skipBlanks_of_not_blank (by decide) rest
      refine ⟨ends_blanks fun _ => ends_of_not_digit (by decide) rest, ?_⟩
      by_cases none : blanks.bytes = []
      · rw [none, List.nil_append, list_cons_of_ne (by decide) (by decide), printed]
        rfl
      · rw [list_blanks none, printed]
        rfl

lemma ofGraphicSelection_of_list {reader : Bytes → Option Json.Value} (refuses : reader [] = none)
    {bytes properties : Bytes} {numbers : List UInt64}
    (read : Numerals.list bytes = (numbers, properties))
    (braced : ∀ b ∈ properties.head?, b = openBrace) :
    ofGraphicSelection reader bytes = .graphicSelection numbers (reader properties) := by
  simp only [ofGraphicSelection, read]
  cases properties with
  | nil => rw [refuses, ite_self]
  | cons b rest =>
      obtain rfl : b = openBrace := braced b rfl
      have notBlank : ¬ (openBrace :: rest).all isBlank := by simp [isBlank, openBrace]
      rw [if_neg notBlank]

/-- **A selection is its numbers, and its properties where they can be read.**  The numbers end
before the brace, and no malformed properties take them away.  This is so whoever reads the
properties, as long as it makes nothing of no text at all. -/
theorem decode_selection {reader : Bytes → Option Json.Value} (refuses : reader [] = none)
    {row : List WrittenNumber} (nonempty : row ≠ []) (blanks : Blanks)
    {properties : Bytes} (braced : ∀ b ∈ properties.head?, b = openBrace) :
    let decoded := decodeWith reader CallbackKind.graphicSelection.code
      (some (writtenRow row ++ (blanks.bytes ++ properties)))
    decoded = .graphicSelection (values row) (reader properties) ∧ decoded.isNull = false := by
  intro decoded
  have read := list_writtenRow (endsRow_blanks_brace blanks braced) row
  obtain ⟨first, rest, eq⟩ := List.exists_cons_of_ne_nil (writtenRow_ne_nil nonempty)
  have selection : decoded = .graphicSelection (values row) (reader properties) := by
    rw [← ofGraphicSelection_of_list refuses read braced]
    simp only [decoded, eq]
    rfl
  exact ⟨selection, selection ▸ rfl⟩

/-- Properties behind a blank, and properties that are cut short. -/
theorem decode_selection_rectangle :
    (decode CallbackKind.graphicSelection.code (some (.ofText "10, 20 \x7b\x7d")) =
        .graphicSelection [10, 20] (readJson? (.ofText "\x7b\x7d")) ∧
      (readJson? (.ofText "\x7b\x7d")).isSome = true) ∧
    decode CallbackKind.graphicSelection.code (some (.ofText "10, 20\x7boops")) =
      .graphicSelection [10, 20] none := by
  let row : List WrittenNumber := [⟨[], 10, nofun⟩, ⟨[32], 20, by simp [isBlank]⟩]
  have whole : writtenRow row ++ ([32] ++ Bytes.ofText "\x7b\x7d") = .ofText "10, 20 \x7b\x7d" := by
    decide +kernel
  have broken : writtenRow row ++ ([] ++ Bytes.ofText "\x7boops") = .ofText "10, 20\x7boops" := by
    decide +kernel
  have refuses : readJson? [] = none := Option.isNone_iff_eq_none.1 (by decide +kernel)
  have unreadable : readJson? (.ofText "\x7boops") = none :=
    Option.isNone_iff_eq_none.1 (by decide +kernel)
  refine ⟨⟨?_, by decide +kernel⟩, ?_⟩
  · rw [← whole]
    exact (@decode_selection _ refuses row nofun ⟨[32], by simp [isBlank]⟩ (.ofText "\x7b\x7d")
      (by decide +kernel)).1
  · rw [← broken, ← unreadable]
    exact (@decode_selection _ refuses row nofun ⟨[], nofun⟩ (.ofText "\x7boops")
      (by decide +kernel)).1

end Payload

end TiledView
