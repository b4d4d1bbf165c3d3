import TiledView.Proofs.Callback.Written

/-!
# The numbers in a payload

A payload that was not written as a list or a matrix has numbers all the same: its maximal runs of
digits.  `Numerals.numbers` lists them, each modulo `2 ^ 64`.

**Conservation.**  A reader takes some bytes off the front of its input.  The numbers of the input
are those that it returns, followed by those of the bytes that are left.  That holds of a number
(`Numerals.numbers_number`), of a list (`Numerals.list_takes`) and by induction of a matrix
(`Numerals.matrix_takes`), and needs no care for a run that is cut in two, since every reader stops
where no run goes on.

**Where a matrix ends.**  A list consumes something wherever its first byte may stand in a matrix
(`Numerals.length_list_lt`).  So a matrix ends at the first byte that may not, and it has all
numbers up to there (`Numerals.matrix_reads`).
-/

namespace TiledView

/-! ## Runs -/

section Runs

variable {α : Type} {p : α → Bool}

/-- The maximal runs of elements with `p`, in order: what stands between the other elements. -/
def runs (p : α → Bool) (l : List α) : List (List α) :=
  (l.splitOnP fun a => !p a).filter fun run => !run.isEmpty

@[simp] lemma runs_nil : runs p [] = [] := rfl

/-- An element without `p` ends one run and belongs to none. -/
lemma runs_append_cons {a : α} (other : p a = false) (l m : List α) :
    runs p (l ++ a :: m) = runs p l ++ runs p m := by
  rw [runs, List.splitOnP_append_cons _ _ (by rw [other, Bool.not_false]), List.filter_append, runs,
    runs]

lemma runs_cons {a : α} (other : p a = false) (l : List α) : runs p (a :: l) = runs p l :=
  runs_append_cons other [] l

lemma runs_append {m : List α} (ends : ∀ a ∈ m.head?, p a = false) (l : List α) :
    runs p (l ++ m) = runs p l ++ runs p m := by
  cases m with
  | nil => rw [List.append_nil, runs_nil, List.append_nil]
  | cons a m => rw [runs_append_cons (ends a rfl), runs_cons (ends a rfl)]

/-- Elements with `p` only are one run. -/
lemma runs_eq_singleton {run : List α} (nonempty : run ≠ []) (all : ∀ a ∈ run, p a = true) :
    runs p run = [run] := by
  rw [runs, List.splitOnP_eq_singleton fun a mem => by rw [all a mem, Bool.not_true]]
  simp [nonempty]

/-- Elements without `p` belong to no run. -/
lemma runs_append_left {gap : List α} (none : ∀ a ∈ gap, p a = false) (l : List α) :
    runs p (gap ++ l) = runs p l := by
  induction gap with
  | nil => rfl
  | cons a gap ih =>
      obtain ⟨here, rest⟩ := List.forall_mem_cons.1 none
      rw [List.cons_append, runs_cons here, ih rest]

/-- One of them is enough to keep runs apart. -/
lemma runs_append_append {gap : List α} (nonempty : gap ≠ []) (none : ∀ a ∈ gap, p a = false)
    (l m : List α) : runs p (l ++ (gap ++ m)) = runs p l ++ runs p m := by
  obtain ⟨a, gap, rfl⟩ := List.exists_cons_of_ne_nil nonempty
  obtain ⟨here, rest⟩ := List.forall_mem_cons.1 none
  rw [List.cons_append, runs_append_cons here, runs_append_left rest]

lemma head?_dropWhile {l : List α} : ∀ a ∈ (l.dropWhile p).head?, p a = false := by
  intro a found
  have stop := List.head?_dropWhile_not p l
  rwa [show (l.dropWhile p).head? = some a from found] at stop

/-- The first run goes on as long as it can. -/
lemma runs_eq_cons {a : α} (here : p a = true) (l : List α) :
    runs p (a :: l) = (a :: l).takeWhile p :: runs p ((a :: l).dropWhile p) := by
  have nonempty : (a :: l).takeWhile p ≠ [] := by simp [here]
  have all : ∀ b ∈ (a :: l).takeWhile p, p b = true := List.all_eq_true.1 List.all_takeWhile
  conv_lhs => rw [← List.takeWhile_append_dropWhile (p := p) (l := a :: l)]
  rw [runs_append head?_dropWhile, runs_eq_singleton nonempty all, List.singleton_append]

end Runs

namespace Numerals

/-! ## Numbers -/

/-- The number that decimal digits stand for. -/
def digitsValue (digits : Bytes) : Nat := digits.foldl (fun n d => 10 * n + (d.toNat - 48)) 0

/-- The numbers in a payload: its maximal runs of digits, each modulo `2 ^ 64`. -/
def numbers (bytes : Bytes) : List UInt64 :=
  (runs isDigit bytes).map fun digits => .ofNat (digitsValue digits)

lemma toUInt64_of_isDigit {d : UInt8} (digit : isDigit d = true) :
    (d - 48).toUInt64 = .ofNat (d.toNat - 48) := by
  have atLeast : 48 ≤ d := by
    simp only [isDigit, Bool.and_eq_true, decide_eq_true_eq] at digit
    exact digit.1
  refine UInt64.toNat_inj.1 ?_
  rw [UInt8.toNat_toUInt64, UInt8.toNat_sub_of_le _ _ atLeast, UInt64.toNat_ofNat']
  have := d.toNat_lt
  have : (48 : UInt8).toNat = 48 := rfl
  omega

/-- Wrapping around at every digit is the same as wrapping around once. -/
lemma ofDigits_eq {digits : Bytes} (all : ∀ d ∈ digits, isDigit d = true) :
    ofDigits digits = .ofNat (digitsValue digits) := by
  rw [ofDigits, digitsValue]
  refine List.foldl_rel (r := fun wrapped n => wrapped = UInt64.ofNat n) rfl ?_
  rintro d mem _ n rfl
  rw [toUInt64_of_isDigit (all d mem), UInt64.ofNat_add, UInt64.ofNat_mul, UInt64.mul_comm]
  rfl

lemma numbers_append {rest : Bytes} (ends : Ends rest) (bytes : Bytes) :
    numbers (bytes ++ rest) = numbers bytes ++ numbers rest := by
  rw [numbers, runs_append ends, List.map_append, numbers, numbers]

lemma numbers_cons {b : UInt8} (other : isDigit b = false) (rest : Bytes) :
    numbers (b :: rest) = numbers rest := by
  rw [numbers, runs_cons other, numbers]

/-- Reading a number takes it from the numbers. -/
lemma numbers_number {d : UInt8} (digit : isDigit d = true) (rest : Bytes) :
    numbers (d :: rest) = (number (d :: rest)).1 :: numbers (number (d :: rest)).2 := by
  have all : ∀ b ∈ (d :: rest).takeWhile isDigit, isDigit b = true :=
    List.all_eq_true.1 List.all_takeWhile
  rw [numbers, runs_eq_cons digit, List.map_cons, ← ofDigits_eq all, number, numbers]

/-! ## Lists -/

lemma skipBlanks_of_blank {b : UInt8} (blank : isBlank b = true) (rest : Bytes) :
    skipBlanks (b :: rest) = skipBlanks rest := List.dropWhile_cons_of_pos blank

lemma skipBlanks_of_not_blank {b : UInt8} (printed : isBlank b = false) (rest : Bytes) :
    skipBlanks (b :: rest) = b :: rest :=
  List.dropWhile_cons_of_neg (by rw [printed]; exact Bool.false_ne_true)

lemma not_digit_of_isBlank {b : UInt8} (blank : isBlank b = true) : isDigit b = false := by
  cases digit : isDigit b with
  | false => rfl
  | true => exact absurd blank (by simp [(not_separator_of_isDigit digit).1])

/-- A byte that may stand in a list or a matrix. -/
def isListed (b : UInt8) : Bool := isDigit b || b == comma || b == semicolon || isBlank b

/-- What a reader does that returns `values`: it takes bytes off the front that may stand in a
matrix, and their numbers are `values`. -/
structure Takes (bytes : Bytes) (values : List UInt64) (left : Bytes) : Prop where
  taken : ∃ read, bytes = read ++ left ∧ ∀ b ∈ read, isListed b = true
  conserved : numbers bytes = values ++ numbers left

namespace Takes

variable {bytes left rest : Bytes} {values more : List UInt64}

lemma refl (bytes : Bytes) : Takes bytes [] bytes := ⟨⟨[], rfl, nofun⟩, rfl⟩

lemma trans (first : Takes bytes values left) (next : Takes left more rest) :
    Takes bytes (values ++ more) rest := by
  obtain ⟨read, rfl, listed⟩ := first.taken
  obtain ⟨read', rfl, listed'⟩ := next.taken
  refine ⟨⟨read ++ read', (List.append_assoc ..).symm, ?_⟩, ?_⟩
  · exact List.forall_mem_append.2 ⟨listed, listed'⟩
  · rw [first.conserved, next.conserved, List.append_assoc]

lemma length_le (taken : Takes bytes values left) : left.length ≤ bytes.length := by
  obtain ⟨read, rfl, -⟩ := taken.taken
  simp

lemma separator {b : UInt8} (listed : isListed b = true) (other : isDigit b = false)
    (rest : Bytes) : Takes (b :: rest) [] rest where
  taken := ⟨[b], rfl, by simpa using listed⟩
  conserved := numbers_cons other rest

lemma number {d : UInt8} (digit : isDigit d = true) (rest : Bytes) :
    Takes (d :: rest) [(Numerals.number (d :: rest)).1] (Numerals.number (d :: rest)).2 where
  taken := by
    refine ⟨(d :: rest).takeWhile isDigit, List.takeWhile_append_dropWhile.symm, fun b mem => ?_⟩
    have digit : isDigit b = true := List.all_eq_true.1 List.all_takeWhile b mem
    simp [isListed, digit]
  conserved := numbers_number digit rest

lemma blanks (bytes : Bytes) : Takes bytes [] (skipBlanks bytes) := by
  induction bytes with
  | nil => exact refl []
  | cons b rest ih =>
      cases blank : isBlank b with
      | false =>
          rw [skipBlanks_of_not_blank blank]
          exact refl _
      | true =>
          rw [skipBlanks_of_blank blank]
          have listed : isListed b = true := by simp [isListed, blank]
          exact (separator listed (not_digit_of_isBlank blank) rest).trans ih

end Takes

/-- Up to the first byte of a number, a list takes an optional comma and blanks. -/
lemma takes_before (b : UInt8) (rest : Bytes) :
    Takes (b :: rest) [] (skipBlanks (if b = comma then rest else b :: rest)) := by
  split_ifs with h
  · subst h
    exact (Takes.separator (by decide) (by decide) rest).trans (.blanks rest)
  · exact .blanks _

/-- **A list takes the numbers that it returns.** -/
lemma list_takes (bytes : Bytes) : Takes bytes (list bytes).1 (list bytes).2 := by
  fun_induction list bytes with
  | case1 => exact .refl []
  | case2 rest => exact .separator (by decide) (by decide) rest
  | case3 b rest _ ended =>
      rw [dite_eq_ite] at ended
      exact ended ▸ takes_before b rest
  | case4 b rest _ d digits found digit values left eq ih =>
      rw [dite_eq_ite] at found
      have before := takes_before b rest
      rw [found] at before
      rw [eq] at ih
      exact before.trans ((Takes.number digit digits).trans ih)
  | case5 b rest _ d digits found other =>
      rw [dite_eq_ite] at found
      exact found ▸ takes_before b rest

/-- What a list does once blanks are skipped: it reads a number and goes on, or it ends. -/
def atNumber : Bytes → List UInt64 × Bytes
  | [] => ([], [])
  | d :: digits =>
    if isDigit d then
      let (n, left) := number (d :: digits)
      (n :: (list left).1, (list left).2)
    else
      ([], d :: digits)

lemma list_cons (b : UInt8) (rest : Bytes) :
    list (b :: rest) =
      if b = semicolon then ([], rest)
      else atNumber (skipBlanks (if b = comma then rest else b :: rest)) := by
  rw [list]
  congr 1
  split
  · next ended => rw [ended, atNumber]
  · next d digits found => rw [found, atNumber, dite_eq_ite]

lemma list_cons_of_ne {b : UInt8} (notSemicolon : b ≠ semicolon) (notComma : b ≠ comma)
    (rest : Bytes) : list (b :: rest) = atNumber (skipBlanks (b :: rest)) := by
  rw [list_cons, if_neg notSemicolon, if_neg notComma]

lemma atNumber_takes (bytes : Bytes) : Takes bytes (atNumber bytes).1 (atNumber bytes).2 := by
  cases bytes with
  | nil => exact .refl []
  | cons d digits =>
      rw [atNumber]
      split_ifs with digit
      · exact (Takes.number digit digits).trans (list_takes _)
      · exact .refl _

/-- Blanks are skipped, and a comma before them, unless the list begins with its number. -/
lemma length_before_lt {b : UInt8} (listed : isListed b = true) (other : isDigit b = false)
    (notSemicolon : b ≠ semicolon) (rest : Bytes) :
    (skipBlanks (if b = comma then rest else b :: rest)).length < (b :: rest).length := by
  have le : (skipBlanks rest).length ≤ rest.length := length_dropWhile_le _ _
  split_ifs with h
  · exact Nat.lt_succ_of_le le
  · have blank : isBlank b = true := by simpa [isListed, other, notSemicolon, h] using listed
    rw [skipBlanks_of_blank blank]
    exact Nat.lt_succ_of_le le

/-- **A list consumes something where a list or a matrix may go on.** -/
lemma length_list_lt {b : UInt8} (listed : isListed b = true) (rest : Bytes) :
    (list (b :: rest)).2.length < (b :: rest).length := by
  cases digit : isDigit b with
  | true =>
      obtain ⟨printed, notSemicolon, notComma, -⟩ := not_separator_of_isDigit digit
      rw [list_cons_of_ne notSemicolon notComma, skipBlanks_of_not_blank printed, atNumber,
        if_pos digit]
      exact Nat.lt_of_le_of_lt (list_takes _).length_le (length_number_lt digit)
  | false =>
      rw [list_cons]
      by_cases closed : b = semicolon
      · rw [if_pos closed]
        exact Nat.lt_succ_self _
      · rw [if_neg closed]
        exact Nat.lt_of_le_of_lt (atNumber_takes _).length_le
          (length_before_lt listed digit closed rest)

/-! ## Matrices -/

/-- **A matrix takes the numbers of its rows.** -/
lemma matrix_takes (bytes : Bytes) :
    Takes bytes (matrix bytes).1.flatten (matrix bytes).2 := by
  fun_induction matrix bytes with
  | case1 bytes consumed rows left eq ih =>
      rw [eq] at ih
      exact (list_takes bytes).trans ih
  | case2 bytes stalled => exact .refl bytes

/-- A matrix ends before a byte that may not stand in it, or at the end. -/
lemma matrix_ends (bytes : Bytes) : ∀ b ∈ (matrix bytes).2.head?, isListed b = false := by
  fun_induction matrix bytes with
  | case1 bytes consumed rows left eq ih =>
      rw [eq] at ih
      exact ih
  | case2 bytes stalled =>
      rintro b found
      obtain ⟨rest, rfl⟩ := List.head?_eq_some_iff.1 found
      cases listed : isListed b with
      | false => rfl
      | true => exact absurd (length_list_lt listed rest) stalled

/-- Every row takes at least one byte. -/
lemma length_matrix_le (bytes : Bytes) :
    (matrix bytes).1.length + (matrix bytes).2.length ≤ bytes.length := by
  fun_induction matrix bytes with
  | case1 bytes consumed rows left eq ih =>
      rw [eq] at ih
      simp only [List.length_cons] at ih ⊢
      omega
  | case2 bytes stalled => simp

lemma findIdx_eq_length_left {read left : Bytes} (listed : ∀ b ∈ read, isListed b = true)
    (ends : ∀ b ∈ left.head?, isListed b = false) :
    ((read ++ left).findIdx fun b => !isListed b) = read.length := by
  have passed : (read.findIdx fun b => !isListed b) = read.length :=
    List.findIdx_eq_length_of_false fun b mem => by rw [listed b mem, Bool.not_true]
  have here : (left.findIdx fun b => !isListed b) = 0 := by
    cases left with
    | nil => rfl
    | cons b left => rw [List.findIdx_cons, ends b rfl, Bool.not_false, cond_true]
  rw [List.findIdx_append, passed, if_neg (Nat.lt_irrefl _), here, Nat.zero_add]

/-- **A matrix has every number before the first byte that may not stand in it, and ends there.**
No number is lost, split or read twice, whatever separates them; the bytes that are left begin where
the first digit, comma, semicolon or blank is missing, or there are none; and there are no more rows
than bytes that were read. -/
theorem matrix_reads (bytes : Bytes) :
    let stop := bytes.findIdx fun b => !isListed b
    (matrix bytes).2 = bytes.drop stop ∧
      (matrix bytes).1.flatten = numbers (bytes.take stop) ∧
      (matrix bytes).1.length ≤ stop := by
  intro stop
  obtain ⟨read, eq, listed⟩ := (matrix_takes bytes).taken
  have ends := matrix_ends bytes
  have conserved := (matrix_takes bytes).conserved
  have rows := length_matrix_le bytes
  generalize (matrix bytes).2 = left at eq ends conserved rows ⊢
  -- The byte that ends the matrix is no digit, so no run is cut in two there.
  have noDigit : Ends left := fun b found => by
    have other : isListed b = false := ends b found
    simp only [isListed, Bool.or_eq_false_iff] at other
    exact other.1.1.1
  subst eq
  have stopped : stop = read.length := findIdx_eq_length_left listed ends
  rw [stopped, List.drop_left, List.take_left]
  refine ⟨rfl, ?_, ?_⟩
  · rw [numbers_append noDigit] at conserved
    exact (List.append_cancel_right conserved).symm
  · rw [List.length_append] at rows
    omega

/-- The letter ends the matrix, and so does not take the numbers before it along. -/
example : matrix (.ofText "1 ,2;;37x,4") = ([[1], [2], [], [37]], .ofText "x,4") := by
  decide +kernel

end Numerals

end TiledView
