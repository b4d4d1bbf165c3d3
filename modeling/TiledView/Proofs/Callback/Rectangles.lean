import Mathlib.Data.List.Basic
import TiledView.Callback.Invalidation
import TiledView.Proofs.Callback.DigitRuns

/-!
# Rectangles and parts in a text

A rectangle is read from the next four numbers of a text, wherever they stand in it, and a part from
the next one.  So what is read depends on the runs of digits in the text only, and a number more or
less at one place moves every later field.  `Text.numbers` lists them by characters; the bytes of a
text have the same ones (`Numerals.numbers_ofText`), since no byte of a longer character is a digit.

**One number at a time.**  Every reader takes numbers off the front of the list and leaves the
others (`Numerals.numbers_field`, `Numerals.numbers_rect`), so rectangles are groups of four numbers
(`Numerals.rects_eq`).  Pages that are written as text are read back from it
(`Numerals.rects_pagesText`).

**Invalidations.**  The word for a whole part counts only if it stands alone or before a comma
(`Invalidation.NamesWholePart`); behind it, or behind a rectangle, the next number is the part.
-/

namespace TiledView

/-! ## The numbers in a text -/

namespace Text

/-- The numbers in a text: its maximal runs of digits. -/
def numbers (cs : List Char) : List Nat :=
  (runs Char.isDigit cs).map fun digits => Nat.ofDigitChars 10 digits 0

/-- The numbers in a text, each modulo `2 ^ 64`. -/
def unsigned (cs : List Char) : List Nat := (numbers cs).map (· % UInt64.size)

/-- The numbers in a text as signed numbers of 64 bits: those of them that are `2 ^ 63` or more
modulo `2 ^ 64` are negative. -/
def signed (cs : List Char) : List Int := (numbers cs).map fun (n : Nat) => (n : Int).bmod UInt64.size

lemma numbers_append_cons {c : Char} (other : c.isDigit = false) (cs ds : List Char) :
    numbers (cs ++ c :: ds) = numbers cs ++ numbers ds := by
  rw [numbers, runs_append_cons other, List.map_append, numbers, numbers]

end Text

namespace Numerals

/-! ## Characters and their bytes -/

lemma isDigit_iff {b : UInt8} : isDigit b = true ↔ 48 ≤ b.toNat ∧ b.toNat ≤ 57 := by
  simp only [isDigit, Bool.and_eq_true, decide_eq_true_eq, UInt8.le_iff_toNat_le]
  exact Iff.rfl

lemma char_isDigit_iff {c : Char} : c.isDigit = true ↔ 48 ≤ c.toNat ∧ c.toNat ≤ 57 := by
  simp only [Char.isDigit, Bool.and_eq_true, decide_eq_true_eq, ge_iff_le, UInt32.le_iff_toNat_le]
  exact Iff.rfl

/-- A digit is one byte. -/
lemma utf8EncodeChar_of_isDigit {c : Char} (digit : c.isDigit = true) :
    String.utf8EncodeChar c = [UInt8.ofNat c.toNat] := by
  have := (char_isDigit_iff.1 digit).2
  exact if_pos (show c.toNat ≤ 127 by omega)

lemma toNat_byte {c : Char} (digit : c.isDigit = true) : (UInt8.ofNat c.toNat).toNat = c.toNat := by
  have := (char_isDigit_iff.1 digit).2
  rw [UInt8.toNat_ofNat']
  omega

/-- No byte of any other character is a digit: all bytes of a longer one are above them. -/
lemma not_digit_of_mem_utf8EncodeChar {c : Char} (other : c.isDigit = false) :
    ∀ b ∈ String.utf8EncodeChar c, isDigit b = false := by
  have noDigit : ¬ (48 ≤ c.toNat ∧ c.toNat ≤ 57) := by
    rw [← char_isDigit_iff, other]
    exact Bool.false_ne_true
  intro b mem
  rw [Bool.eq_false_iff, Ne, isDigit_iff]
  simp only [String.utf8EncodeChar, show c.val.toNat = c.toNat from rfl] at mem
  split_ifs at mem <;> simp only [List.mem_cons, List.not_mem_nil, or_false] at mem
  · subst mem
    rw [UInt8.toNat_ofNat']
    omega
  · rcases mem with rfl | rfl <;> rw [UInt8.toNat_ofNat'] <;> omega
  · rcases mem with rfl | rfl | rfl <;> rw [UInt8.toNat_ofNat'] <;> omega
  · rcases mem with rfl | rfl | rfl | rfl <;> rw [UInt8.toNat_ofNat'] <;> omega

/-- The bytes of some characters. -/
def encoded (cs : List Char) : Bytes := cs.flatMap String.utf8EncodeChar

lemma encoded_append (cs ds : List Char) : encoded (cs ++ ds) = encoded cs ++ encoded ds :=
  List.flatMap_append

lemma isDigit_of_mem_encoded {digits : List Char} (all : ∀ c ∈ digits, c.isDigit = true) :
    ∀ b ∈ encoded digits, isDigit b = true := by
  intro b mem
  obtain ⟨c, inside, here⟩ := List.mem_flatMap.1 mem
  rw [utf8EncodeChar_of_isDigit (all c inside), List.mem_singleton] at here
  rw [here, isDigit_iff, toNat_byte (all c inside), ← char_isDigit_iff]
  exact all c inside

lemma digitsValue_encoded {digits : List Char} (all : ∀ c ∈ digits, c.isDigit = true) :
    digitsValue (encoded digits) = Nat.ofDigitChars 10 digits 0 := by
  rw [digitsValue, encoded, List.foldl_flatMap, Nat.ofDigitChars]
  refine List.foldl_rel (r := Eq) rfl ?_
  rintro c mem n _ rfl
  rw [utf8EncodeChar_of_isDigit (all c mem), List.foldl_cons, List.foldl_nil,
    toNat_byte (all c mem)]
  rfl

lemma numbers_encoded_digits {digits : List Char} (all : ∀ c ∈ digits, c.isDigit = true) :
    numbers (encoded digits) = (Text.numbers digits).map .ofNat := by
  by_cases none : digits = []
  · subst none
    rfl
  · have some : encoded digits ≠ [] := by
      obtain ⟨c, cs, rfl⟩ := List.exists_cons_of_ne_nil none
      exact List.append_ne_nil_of_left_ne_nil String.utf8EncodeChar_ne_nil _
    rw [numbers, runs_eq_singleton some (isDigit_of_mem_encoded all), List.map_singleton,
      digitsValue_encoded all, Text.numbers, runs_eq_singleton none all, List.map_singleton,
      List.map_singleton]

/-- **The numbers in a text are the same by its characters and by its bytes.**  The induction is on
what follows the digits that have been passed. -/
lemma numbers_encoded {passed : List Char} (digits : ∀ c ∈ passed, c.isDigit = true)
    (cs : List Char) :
    numbers (encoded (passed ++ cs)) = (Text.numbers (passed ++ cs)).map .ofNat := by
  induction cs generalizing passed with
  | nil => rw [List.append_nil, numbers_encoded_digits digits]
  | cons c cs ih =>
      cases digit : c.isDigit with
      | true =>
          rw [List.append_cons]
          exact ih (List.forall_mem_append.2 ⟨digits, List.forall_mem_singleton.2 digit⟩)
      | false =>
          have rest := ih (List.forall_mem_nil _)
          have apart : encoded (passed ++ c :: cs) =
              encoded passed ++ (String.utf8EncodeChar c ++ encoded cs) := encoded_append ..
          rw [apart, numbers, runs_append_append String.utf8EncodeChar_ne_nil
              (not_digit_of_mem_utf8EncodeChar digit), List.map_append, ← numbers, ← numbers,
            numbers_encoded_digits digits, Text.numbers_append_cons digit, List.map_append]
          exact congrArg _ rest

lemma numbers_ofText (text : String) :
    numbers (.ofText text) = (Text.numbers text.toList).map .ofNat := by
  have bytes : Bytes.ofText text = encoded text.toList := by
    rw [encoded, ← Bytes.ofText_ofList, String.ofList_toList]
  rw [bytes]
  exact numbers_encoded (List.forall_mem_nil _) text.toList

/-! ## Numbers wherever they stand -/

lemma numbers_skipToDigit (bytes : Bytes) : numbers (skipToDigit bytes) = numbers bytes := by
  induction bytes with
  | nil => rfl
  | cons b rest ih =>
      cases digit : isDigit b with
      | true => rw [skipToDigit, List.dropWhile_cons_of_neg (by simp [digit])]
      | false =>
          rw [skipToDigit, List.dropWhile_cons_of_pos (by simp [digit]), numbers_cons digit]
          exact ih

lemma numbers_of_skipToDigit_nil {bytes : Bytes} (none : skipToDigit bytes = []) :
    numbers bytes = [] := by
  rw [← numbers_skipToDigit, none]
  rfl

lemma numbers_of_skipToDigit_cons {bytes digits : Bytes} {d : UInt8}
    (found : skipToDigit bytes = d :: digits) :
    numbers bytes = (number (d :: digits)).1 :: numbers (number (d :: digits)).2 := by
  rw [← numbers_skipToDigit, found, numbers_number (isDigit_of_skipToDigit found)]

/-- A number as a field of a rectangle. -/
def signedField (n : UInt64) : Int := n.toInt64.toInt

/-- **A field is the next number, and zero if there is none.** -/
lemma field_eq (bytes : Bytes) : (field bytes).1 = signedField ((numbers bytes).getD 0 0) := by
  rw [field]
  cases found : skipToDigit bytes with
  | nil => rw [numbers_of_skipToDigit_nil found]; rfl
  | cons d digits => rw [numbers_of_skipToDigit_cons found]; rfl

lemma numbers_field (bytes : Bytes) : numbers (field bytes).2 = (numbers bytes).drop 1 := by
  rw [field]
  cases found : skipToDigit bytes with
  | nil => rw [numbers_of_skipToDigit_nil found]; rfl
  | cons d digits => rw [numbers_of_skipToDigit_cons found]; rfl

/-- The rectangle that the `k`-th group of four fields makes.  Missing fields are zero. -/
def rectAt (fields : List Int) (k : Nat) : Rect .twips :=
  ⟨fields.getD (4 * k) 0, fields.getD (4 * k + 1) 0, fields.getD (4 * k + 2) 0,
    fields.getD (4 * k + 3) 0⟩

/-- The numbers in a payload as fields. -/
def fields (bytes : Bytes) : List Int := (numbers bytes).map signedField

lemma fields_getD (bytes : Bytes) (i : Nat) :
    (fields bytes).getD i 0 = signedField ((numbers bytes).getD i 0) := by
  rw [fields, List.getD_eq_getElem?_getD, List.getD_eq_getElem?_getD, List.getElem?_map]
  exact Option.getD_map signedField 0 _

lemma getD_drop {α : Type} (l : List α) (k i : Nat) (default : α) :
    (l.drop k).getD i default = l.getD (k + i) default := by
  rw [List.getD_eq_getElem?_getD, List.getD_eq_getElem?_getD, List.getElem?_drop]

/-- **A rectangle is the next four numbers.** -/
lemma rect_eq (bytes : Bytes) : (rect bytes).1 = rectAt (fields bytes) 0 := by
  simp only [rect, field_eq, numbers_field, getD_drop, rectAt, fields_getD]

lemma numbers_rect (bytes : Bytes) : numbers (rect bytes).2 = (numbers bytes).drop 4 := by
  simp only [rect, numbers_field, List.drop_drop]

/-! ## Rectangles -/

/-- Numbers in groups of four.  The last group may lack some. -/
def groups (fields : List Int) : List (Rect .twips) :=
  (List.range ((fields.length + 3) / 4)).map (rectAt fields)

lemma rectAt_succ (fields : List Int) (k : Nat) :
    rectAt fields (k + 1) = rectAt (fields.drop 4) k := by
  simp only [rectAt, getD_drop]
  congr 2 <;> omega

lemma groups_eq_cons {fields : List Int} (nonempty : fields ≠ []) :
    groups fields = rectAt fields 0 :: groups (fields.drop 4) := by
  have pos := List.length_pos_iff.2 nonempty
  have count : (fields.length + 3) / 4 = ((fields.drop 4).length + 3) / 4 + 1 := by
    rw [List.length_drop]
    omega
  rw [groups, count, List.range_succ_eq_map, List.map_cons, List.map_map, groups]
  congr 1
  exact List.map_congr_left fun k _ => rectAt_succ fields k

/-- **Rectangles are groups of four numbers.** -/
lemma rects_eq (bytes : Bytes) : (rects bytes).1 = groups (fields bytes) := by
  fun_induction rects bytes with
  | case1 bytes none =>
      rw [fields, numbers_of_skipToDigit_nil none]
      rfl
  | case2 bytes d digits found rest left eq ih =>
      have same : fields (d :: digits) = fields bytes := by
        rw [fields, ← found, numbers_skipToDigit, fields]
      have some : fields bytes ≠ [] := by
        rw [fields, numbers_of_skipToDigit_cons found]
        exact List.cons_ne_nil _ _
      have others : rest = groups ((fields bytes).drop 4) := by
        rw [eq, fields, numbers_rect, List.map_drop, ← fields, same] at ih
        exact ih
      rw [groups_eq_cons some, ← others, ← same, rect_eq]

lemma signedField_ofNat (n : Nat) : signedField (.ofNat n) = (n : Int).bmod UInt64.size := by
  rw [signedField, UInt64.toInt64_ofNat', Int64.toInt_ofNat']

lemma fields_ofText (text : String) : fields (.ofText text) = Text.signed text.toList := by
  rw [fields, numbers_ofText, List.map_map, Text.signed]
  exact List.map_congr_left fun n _ => signedField_ofNat n

end Numerals

/-! ## Pages as text -/

namespace Text

/-- Text without digits keeps numbers apart. -/
lemma numbers_append_append {gap : List Char} (nonempty : gap ≠ [])
    (none : ∀ c ∈ gap, c.isDigit = false) (cs ds : List Char) :
    numbers (cs ++ (gap ++ ds)) = numbers cs ++ numbers ds := by
  rw [numbers, runs_append_append nonempty none, List.map_append, numbers, numbers]

lemma numbers_intercalate {gap : String} (nonempty : gap.toList ≠ [])
    (none : ∀ c ∈ gap.toList, c.isDigit = false) (texts : List String) :
    numbers (gap.intercalate texts).toList = texts.flatMap fun text => numbers text.toList := by
  rw [String.toList_intercalate]
  induction texts with
  | nil => rfl
  | cons text texts ih =>
      cases texts with
      | nil => simp
      | cons next texts =>
          rw [List.map_cons, List.map_cons, List.intercalate_cons_cons, List.append_assoc,
            numbers_append_append nonempty none, ← List.map_cons, ih]
          rfl

/-- A number is read back. -/
lemma numbers_toString {n : Int} (nonneg : 0 ≤ n) : numbers (toString n).toList = [n.toNat] := by
  have digits : (toString n).toList = Nat.toDigits 10 n.toNat := by
    rw [show toString n = n.repr from rfl, Int.repr_eq_if, if_pos nonneg, ← Nat.toString_eq_repr,
      Nat.toString_eq_ofList_toDigits, String.toList_ofList]
  have some : Nat.toDigits 10 n.toNat ≠ [] := Nat.toDigits_ne_nil
  have all : ∀ c ∈ Nat.toDigits 10 n.toNat, c.isDigit = true := fun c =>
    Nat.isDigit_of_mem_toDigits (by decide) (Nat.le_refl 10)
  rw [numbers, digits, runs_eq_singleton some all, List.map_singleton,
    Nat.ofDigitChars_toDigits (by decide) (Nat.le_refl 10)]

end Text

namespace Numerals

/-- The fields of a rectangle, as they are written. -/
def rectFields (r : Rect .twips) : List Int := [r.x, r.y, r.width, r.height]

/-- Pages as a document engine writes them: `x, y, width, height; x, y, width, height`. -/
def pagesText (pages : List (Rect .twips)) : String :=
  "; ".intercalate (pages.map fun page => ", ".intercalate ((rectFields page).map toString))

/-- The fields are not negative and fit 64 bits with a sign. -/
def FitsFields (r : Rect .twips) : Prop :=
  ∀ n ∈ rectFields r, 0 ≤ n ∧ n ≤ Int64.maxValue.toInt

instance (r : Rect .twips) : Decidable (FitsFields r) :=
  List.decidableBAll (fun n => 0 ≤ n ∧ n ≤ Int64.maxValue.toInt) (rectFields r)

lemma bmod_toNat {n : Int} (nonneg : 0 ≤ n) (le : n ≤ Int64.maxValue.toInt) :
    (n.toNat : Int).bmod UInt64.size = n := by
  have largest : Int64.maxValue.toInt = 9223372036854775807 := rfl
  rw [Int.toNat_of_nonneg nonneg, Int.bmod_eq_of_le] <;> simp only [UInt64.size] <;> omega

lemma signed_intercalate {ns : List Int} (fit : ∀ n ∈ ns, 0 ≤ n ∧ n ≤ Int64.maxValue.toInt) :
    Text.signed (", ".intercalate (ns.map toString)).toList = ns := by
  rw [Text.signed, Text.numbers_intercalate (by simp) (by simp), List.flatMap_map,
    List.map_flatMap]
  calc ns.flatMap (fun n => (Text.numbers (toString n).toList).map fun m : Nat =>
          (m : Int).bmod UInt64.size)
      = ns.flatMap fun n => [n] := List.flatMap_congr fun n mem => by
        rw [Text.numbers_toString (fit n mem).1, List.map_singleton,
          bmod_toNat (fit n mem).1 (fit n mem).2]
    _ = ns := List.flatMap_singleton' ns

lemma signed_pagesText {pages : List (Rect .twips)} (fit : ∀ page ∈ pages, FitsFields page) :
    Text.signed (pagesText pages).toList = pages.flatMap rectFields := by
  rw [Text.signed, pagesText, Text.numbers_intercalate (by simp) (by simp), List.flatMap_map,
    List.map_flatMap]
  exact List.flatMap_congr fun page mem => signed_intercalate (fit page mem)

lemma groups_flatMap (pages : List (Rect .twips)) : groups (pages.flatMap rectFields) = pages := by
  induction pages with
  | nil => rfl
  | cons page pages ih =>
      have some : (page :: pages).flatMap rectFields ≠ [] := List.cons_ne_nil _ _
      rw [groups_eq_cons some]
      exact congrArg (page :: ·) ih

/-- **Pages are read back from their text.** -/
lemma rects_pagesText {pages : List (Rect .twips)} (fit : ∀ page ∈ pages, FitsFields page) :
    (rects (.ofText (pagesText pages))).1 = pages := by
  rw [rects_eq, fields_ofText, signed_pagesText fit, groups_flatMap]

end Numerals

/-! ## Invalidations -/

namespace Text

/-- `text` is all of `cs` but the blanks at its ends. -/
structure IsTrimmed (cs text : List Char) : Prop where
  around : ∃ before after, cs = before ++ (text ++ after) ∧
    (∀ c ∈ before, isBlank c = true) ∧ ∀ c ∈ after, isBlank c = true
  first : ∀ c ∈ text.head?, isBlank c = false
  last : ∀ c ∈ text.getLast?, isBlank c = false

lemma dropWhile_eq_trim_append (cs : List Char) :
    ∃ after, cs.dropWhile isBlank = trim cs ++ after ∧ ∀ c ∈ after, isBlank c = true := by
  have whole := congrArg List.reverse
    (List.takeWhile_append_dropWhile (p := isBlank) (l := (cs.dropWhile isBlank).reverse))
  rw [List.reverse_append, List.reverse_reverse] at whole
  refine ⟨_, whole.symm, fun c mem => ?_⟩
  exact List.all_eq_true.1 List.all_takeWhile c (List.mem_reverse.1 mem)

lemma isTrimmed_trim (cs : List Char) : IsTrimmed cs (trim cs) := by
  obtain ⟨after, rest, blank⟩ := dropWhile_eq_trim_append cs
  refine ⟨⟨cs.takeWhile isBlank, after, ?_, List.all_eq_true.1 List.all_takeWhile, blank⟩,
    fun c found => ?_, fun c found => ?_⟩
  · rw [← rest, List.takeWhile_append_dropWhile]
  · refine head?_dropWhile (l := cs) c ?_
    rw [rest, List.head?_append, Option.mem_def.1 found]
    rfl
  · rw [trim, List.getLast?_reverse] at found
    exact head?_dropWhile c found

lemma dropStart?_append (start rest : List Char) :
    dropStart? start (start ++ rest) = some rest := by
  rw [dropStart?, if_pos (List.isPrefixOf_iff_prefix.2 (List.prefix_append start rest)),
    List.drop_left]

lemma eq_append_of_dropStart? {start cs rest : List Char}
    (found : dropStart? start cs = some rest) : cs = start ++ rest := by
  rw [dropStart?] at found
  split_ifs at found with starts
  · obtain rfl : cs.drop start.length = rest := Option.some.inj found
    exact (List.prefix_iff_eq_append.1 (List.isPrefixOf_iff_prefix.1 starts)).symm

end Text

namespace Invalidation

open Numerals

/-- The word for a whole part stands alone or before a comma, and `rest` follows it. -/
structure NamesWholePart (text rest : List Char) : Prop where
  word : text = wholePartWord ++ rest
  alone : rest = [] ∨ rest.head? = some ','

lemma afterWholePart?_eq_some_iff {text rest : List Char} :
    afterWholePart? text = some rest ↔ NamesWholePart text rest := by
  constructor
  · intro found
    rw [afterWholePart?] at found
    split at found
    · next ended =>
        obtain rfl := Option.some.inj found
        exact ⟨Text.eq_append_of_dropStart? ended, .inl rfl⟩
    · next more comma =>
        obtain rfl := Option.some.inj found
        exact ⟨Text.eq_append_of_dropStart? comma, .inr rfl⟩
    · exact absurd found nofun
    · exact absurd found nofun
  · rintro ⟨rfl, rfl | comma⟩
    · rw [afterWholePart?, Text.dropStart?_append]
    · obtain ⟨more, rfl⟩ := List.head?_eq_some_iff.1 comma
      rw [afterWholePart?, Text.dropStart?_append]
      rfl

lemma nextNumber?_eq (bytes : Bytes) :
    nextNumber? bytes = (numbers bytes).head?.map UInt64.toNat := by
  rw [nextNumber?]
  cases found : skipToDigit bytes with
  | nil => rw [numbers_of_skipToDigit_nil found]; rfl
  | cons d digits => rw [numbers_of_skipToDigit_cons found]; rfl

lemma toNat_numbers_ofText (text : String) :
    (numbers (.ofText text)).map UInt64.toNat = Text.unsigned text.toList := by
  rw [numbers_ofText, List.map_map, Text.unsigned]
  exact List.map_congr_left fun n _ => UInt64.toNat_ofNat'

lemma nextNumber?_ofText (text : String) :
    nextNumber? (.ofText text) = (Text.unsigned text.toList).head? := by
  rw [nextNumber?_eq, ← List.head?_map, toNat_numbers_ofText]

/-- The part behind a rectangle is the fifth number. -/
lemma nextNumber?_rect (text : String) :
    nextNumber? (rect (.ofText text)).2 = (Text.unsigned text.toList)[4]? := by
  rw [nextNumber?_eq, numbers_rect, ← toNat_numbers_ofText, List.getElem?_map, List.head?_drop]

lemma ofText_wholePart {payload : String} {rest : List Char}
    (whole : NamesWholePart (Text.trim payload.toList) rest) :
    ofText payload = .wholePart (Text.unsigned rest).head? := by
  simp only [ofText, afterWholePart?_eq_some_iff.2 whole, nextNumber?_ofText, String.toList_ofList]

lemma ofText_area {payload : String} {text : List Char} (trimmed : Text.trim payload.toList = text)
    (other : ∀ rest, ¬ NamesWholePart text rest) :
    let area := rectAt (Text.signed text) 0
    ofText payload =
      if area.width ≤ 0 ∨ area.height ≤ 0 then .nothing
      else .area area (Text.unsigned text)[4]? := by
  have none : afterWholePart? text = none := by
    cases found : afterWholePart? text with
    | none => rfl
    | some rest => exact absurd (afterWholePart?_eq_some_iff.1 found) (other rest)
  have read : (rect (.ofText (.ofList text))).1 = rectAt (Text.signed text) 0 := by
    rw [rect_eq, fields_ofText, String.toList_ofList]
  have part := nextNumber?_rect (.ofList text)
  rw [String.toList_ofList] at part
  rw [ofText, trimmed, none]
  simp only [read, part, Rect.isEmpty, Bool.or_eq_true, decide_eq_true_eq]

/-- **Rectangles and invalidations are read from the runs of digits in a text.**  Of any text, the
rectangles are its numbers in groups of four, with zero for what the last one lacks; so pages are
read back from their text.  An invalidation is trimmed.  It names a whole part if the word for it
stands alone or before a comma, and the part is the next number; otherwise it is the first rectangle
if that has pixels, and the part is the fifth number. -/
theorem reads_runs (text payload : String) :
    let fields := Text.signed text.toList
    let trimmed := Text.trim payload.toList
    let area := rectAt (Text.signed trimmed) 0
    (rects (.ofText text)).1 = (List.range ((fields.length + 3) / 4)).map (rectAt fields) ∧
      Text.IsTrimmed payload.toList trimmed ∧
      (∀ rest, NamesWholePart trimmed rest →
        ofText payload = .wholePart (Text.unsigned rest).head?) ∧
      ((∀ rest, ¬ NamesWholePart trimmed rest) →
        ofText payload =
          if area.width ≤ 0 ∨ area.height ≤ 0 then .nothing
          else .area area (Text.unsigned trimmed)[4]?) ∧
      ∀ pages : List (Rect .twips), (∀ page ∈ pages, FitsFields page) →
        (rects (.ofText (pagesText pages))).1 = pages := by
  refine ⟨?_, Text.isTrimmed_trim _, fun rest => ofText_wholePart, ofText_area rfl,
    fun pages => rects_pagesText⟩
  rw [rects_eq, fields_ofText, groups]

/-- A sign and a wide blank are no digits, a number wraps around to a negative width, and a field is
missing; a part behind the word for the whole of it; and two pages. -/
theorem reads_runs_pages :
    (rects (.ofText "−1\u00a02;18446744073709551615, x4é5")).1 = [⟨1, 2, -1, 4⟩, ⟨5, 0, 0, 0⟩] ∧
    ofText "\u2003EMPTY, part 3\n" = .wholePart (some 3) ∧
    ofText "0, 15, 300, 450, 2" = .area ⟨0, 15, 300, 450⟩ (some 2) ∧
    (rects (.ofText "0, 0, 12240, 15840; 0, 16408, 12240, 15840")).1 =
      [⟨0, 0, 12240, 15840⟩, ⟨0, 16408, 12240, 15840⟩] := by
  let pages : List (Rect .twips) := [⟨0, 0, 12240, 15840⟩, ⟨0, 16408, 12240, 15840⟩]
  have whole : NamesWholePart (Text.trim "\u2003EMPTY, part 3\n".toList) ", part 3".toList :=
    ⟨by decide +kernel, .inr (by decide +kernel)⟩
  have other : ∀ rest, ¬ NamesWholePart (Text.trim "0, 15, 300, 450, 2".toList) rest := by
    have none : afterWholePart? (Text.trim "0, 15, 300, 450, 2".toList) = none := by decide +kernel
    intro rest whole
    rw [← afterWholePart?_eq_some_iff, none] at whole
    exact absurd whole nofun
  have fit : ∀ page ∈ pages, FitsFields page := by decide
  have written : pagesText pages = "0, 0, 12240, 15840; 0, 16408, 12240, 15840" := by decide +kernel
  refine ⟨?_, ?_, ?_, ?_⟩
  · rw [(reads_runs _ "").1]
    decide +kernel
  · rw [(reads_runs "" _).2.2.1 _ whole]
    decide +kernel
  · rw [(reads_runs "" _).2.2.2.1 other]
    decide +kernel
  · rw [← written]
    exact (reads_runs "" "").2.2.2.2 pages fit

end Invalidation

end TiledView
