import TiledView.Bitmap.Copy
import TiledView.Proofs.Plane.Regions

/-!
# What copying does to a picture

`Bitmap.at?` is the view through which bitmaps are read.  This file says what filling, copying and
moving do to it, pixel by pixel and for every clipping:

* `Bitmap.at?_fill` — every pixel has the colour.
* `Bitmap.at?_blit` — a pixel of the target shows the source where the source has been laid, and
  stays as it was elsewhere.
* `Bitmap.at?_shiftWithin` — moving content within a bitmap has the effect of copying it from a
  second buffer, although source and destination overlap in the same one.

Both copies are lists of row copies, and one row is understood in `getElem?_copyRow_cell`.  For
`shiftWithin` the order of the rows is what matters: `getElem?_foldl_copyRow_self` asks of the list
that no row is read after it has been written, and the two orders of `shiftRows` are shown to be of
that kind.
-/

namespace TiledView

/-! ## One row -/

lemma getElem?_copyRow {m n : Nat} (source : Vector UInt32 m) (target : Vector UInt32 n)
    (copy : RowCopy) (inside : copy.source + copy.count ≤ m) (i : Nat) :
    (copyRow source target copy)[i]? =
      if copy.target ≤ i ∧ i < copy.target + copy.count ∧ i < n then
        source[copy.source + (i - copy.target)]?
      else
        target[i]? := by
  have count : (source.toArray.extract copy.source (copy.source + copy.count)).toList.length =
      copy.count := by
    simp only [Array.length_toList, Array.size_extract, Vector.size_toArray]
    omega
  rw [copyRow, getElem?_writeRun, count]
  split_ifs with h
  · have row : i - copy.target < copy.source + copy.count - copy.source := by omega
    simp only [Array.getElem?_toList, Array.getElem?_extract, Vector.size_toArray,
      Vector.getElem?_toArray]
    rw [if_pos (by omega)]
  · rfl

/-- In a raster `w` pixels wide, the places of a run within row `r` are those of row `r` with a
column in the run.  A run that stays inside its row does not reach into the next one. -/
lemma place_mem_run_iff {w x y r start count : Nat} (hx : x < w) (hrun : start + count ≤ w) :
    (r * w + start ≤ y * w + x ∧ y * w + x < r * w + start + count) ↔
      y = r ∧ start ≤ x ∧ x < start + count := by
  rcases Nat.lt_trichotomy y r with h | h | h
  · have below : (y + 1) * w ≤ r * w := Nat.mul_le_mul_right w h
    rw [Nat.succ_mul] at below
    omega
  · subst h
    omega
  · have above : (r + 1) * w ≤ y * w := Nat.mul_le_mul_right w h
    rw [Nat.succ_mul] at above
    omega

lemma place_lt {w h x y : Nat} (hx : x < w) (hy : y < h) : y * w + x < w * h := by
  have rows : (y + 1) * w ≤ h * w := Nat.mul_le_mul_right w hy
  rw [Nat.succ_mul, Nat.mul_comm h w] at rows
  omega

/-- One row copy, read by column and row on both sides. -/
lemma getElem?_copyRow_cell {w h v k : Nat} (source : Vector UInt32 (v * k))
    (target : Vector UInt32 (w * h)) (sx sy tx ty count x y : Nat) (hsource : sx + count ≤ v)
    (hsy : sy < k) (htarget : tx + count ≤ w) (hx : x < w) (hy : y < h) :
    (copyRow source target ⟨sy * v + sx, ty * w + tx, count⟩)[y * w + x]? =
      if y = ty ∧ tx ≤ x ∧ x < tx + count then
        source[sy * v + (sx + (x - tx))]?
      else
        target[y * w + x]? := by
  have inside : sy * v + sx + count ≤ v * k := by
    have rows : (sy + 1) * v ≤ k * v := Nat.mul_le_mul_right v hsy
    rw [Nat.succ_mul, Nat.mul_comm k v] at rows
    omega
  rw [getElem?_copyRow _ _ _ inside]
  have place := place_lt hx hy
  have run := place_mem_run_iff (r := ty) (y := y) hx htarget
  by_cases hit : y = ty ∧ tx ≤ x ∧ x < tx + count
  · obtain ⟨low, high⟩ := run.2 hit
    rw [if_pos hit, if_pos ⟨low, high, place⟩]
    obtain ⟨rfl, -⟩ := hit
    dsimp only
    congr 1
    omega
  · rw [if_neg hit, if_neg fun hrun => hit (run.1 ⟨hrun.1, hrun.2.1⟩)]

namespace Bitmap

variable {b source target : Bitmap} {p : Point .device}

/-! ## Reading by point -/

lemma mem_bounds : p ∈ b.bounds ↔ 0 ≤ p.x ∧ p.x < b.width ∧ 0 ≤ p.y ∧ p.y < b.height :=
  Rect.mem_ofSize

lemma at?_of_not_mem (h : p ∉ b.bounds) : b.at? p = none := by rw [at?, if_neg h]

lemma at?_of_mem (h : p ∈ b.bounds) : b.at? p = b.pixels[b.indexOf p.x p.y]? := by
  have cell := mem_bounds.1 h
  rw [at?, if_pos h, pixel?, if_pos (by omega)]
  rfl

/-- A bitmap is known by its size and its colours. -/
lemma eq_of_at? {b' : Bitmap} (size : b'.size = b.size)
    (same : ∀ p ∈ b.bounds, b'.at? p = b.at? p) : b' = b := by
  obtain ⟨width, height, pixels⟩ := b
  obtain ⟨width', height', pixels'⟩ := b'
  simp only [Bitmap.size, Size.mk.injEq, Int.ofNat_inj] at size
  obtain ⟨rfl, rfl⟩ := size
  congr 1
  refine Vector.ext fun i hi => ?_
  have pos : 0 < width' := Nat.pos_of_mul_pos_right (Nat.zero_lt_of_lt hi)
  have inside : (⟨(i % width' : Nat), (i / width' : Nat)⟩ : Point .device) ∈
      (⟨width', height', pixels⟩ : Bitmap).bounds := by
    have column := Nat.mod_lt i pos
    have row := (Nat.div_lt_iff_lt_mul pos).2 (Nat.mul_comm width' height' ▸ hi)
    exact mem_bounds.2 ⟨Int.natCast_nonneg _, Int.ofNat_lt.2 column, Int.natCast_nonneg _,
      Int.ofNat_lt.2 row⟩
  have colours := same _ inside
  rw [at?_of_mem inside, at?_of_mem (b := ⟨width', height', pixels'⟩) inside] at colours
  have place : i / width' * width' + i % width' = i := Nat.div_add_mod' i width'
  simp only [indexOf, Int.toNat_natCast, place] at colours
  simpa [hi] using colours

lemma at?_fill (colour : UInt32) :
    (b.fill colour).at? p = if p ∈ b.bounds then some colour else none := by
  by_cases h : p ∈ b.bounds
  · have cell := mem_bounds.1 h
    have place : p.y.toNat * b.width + p.x.toNat < b.width * b.height :=
      place_lt (by omega) (by omega)
    have same : p ∈ (b.fill colour).bounds := h
    rw [if_pos h, at?_of_mem same]
    show (Vector.replicate (b.width * b.height) colour)[p.y.toNat * b.width + p.x.toNat]? = _
    rw [Vector.getElem?_eq_getElem place, Vector.getElem_replicate]
  · rw [if_neg h]
    exact at?_of_not_mem h

lemma mem_rowsOf {area : Rect .device} {y : Int} :
    y ∈ rowsOf area ↔ area.y ≤ y ∧ y < area.bottom := by
  simp only [rowsOf, List.mem_map, List.mem_range, Rect.bottom]
  constructor
  · rintro ⟨k, hk, rfl⟩
    omega
  · intro h
    exact ⟨(y - area.y).toNat, by omega, by omega⟩

/-- Rows are listed top-down. -/
lemma pairwise_rowsOf (area : Rect .device) : (rowsOf area).Pairwise (· < ·) := by
  rw [rowsOf, List.pairwise_map]
  refine List.Pairwise.imp ?_ (List.pairwise_lt_range (n := area.height.toNat))
  intro a b h
  omega

/-- The sides and rows of a rectangle whose pixels, moved by `(dx, dy)`, are pixels of the bitmap. -/
lemma sides_of_forall_mem {r : Rect .device} {dx dy : Int} (hne : r.isEmpty = false)
    (inside : ∀ q ∈ r, q.offset dx dy ∈ b.bounds) :
    0 ≤ r.x + dx ∧ r.right + dx ≤ b.width ∧
      ∀ row ∈ rowsOf r, 0 ≤ row + dy ∧ row + dy < b.height := by
  obtain ⟨wide, high⟩ := Rect.lt_of_isEmpty_eq_false hne
  have cell (x y : Int) (column : r.x ≤ x ∧ x < r.right) (row : r.y ≤ y ∧ y < r.bottom) :=
    mem_bounds.1 (inside ⟨x, y⟩ ⟨column.1, column.2, row.1, row.2⟩)
  simp only [Point.x_offset, Point.y_offset] at cell
  have near := cell r.x r.y (by omega) (by omega)
  have far := cell (r.right - 1) r.y (by omega) (by omega)
  refine ⟨by omega, by omega, fun row hrow => ?_⟩
  have here := cell r.x row (by omega) (mem_rowsOf.1 hrow)
  omega

/-- One row copy, in the coordinates of the two bitmaps.  `count` may be negative: nothing is
copied then. -/
lemma getElem?_copyRow_indexOf (read : Vector UInt32 (source.width * source.height))
    (written : Vector UInt32 (target.width * target.height)) (sx sy tx ty count : Int)
    (hsx : 0 ≤ sx) (hsource : sx + count ≤ source.width) (hsy : 0 ≤ sy ∧ sy < source.height)
    (htx : 0 ≤ tx) (htarget : tx + count ≤ target.width) (hty : 0 ≤ ty)
    (hwide : 0 ≤ count) (hp : p ∈ target.bounds) :
    (copyRow read written ⟨source.indexOf sx sy, target.indexOf tx ty, count.toNat⟩)[
        target.indexOf p.x p.y]? =
      if p.y = ty ∧ tx ≤ p.x ∧ p.x < tx + count then
        read[source.indexOf (p.x + (sx - tx)) sy]?
      else
        written[target.indexOf p.x p.y]? := by
  have cell := mem_bounds.1 hp
  have step := getElem?_copyRow_cell read written sx.toNat sy.toNat tx.toNat ty.toNat count.toNat
    p.x.toNat p.y.toNat (by omega) (by omega) (by omega) (by omega) (by omega)
  simp only [indexOf]
  rw [step]
  by_cases hit : p.y = ty ∧ tx ≤ p.x ∧ p.x < tx + count
  · rw [if_pos hit, if_pos (by omega)]
    congr 2
    omega
  · rw [if_neg hit, if_neg (by omega)]

/-! ## Copying between bitmaps -/

/-- Copying rows from another bitmap: a pixel in one of the rows and in the copied columns shows the
source, whatever the order of the rows. -/
lemma getElem?_foldl_copyRow {left right dx dy : Int} (rows : List Int)
    (written : Vector UInt32 (target.width * target.height))
    (columns : 0 ≤ left ∧ left ≤ right ∧ right ≤ target.width)
    (sourceColumns : 0 ≤ left + dx ∧ right + dx ≤ source.width)
    (inside : ∀ row ∈ rows, 0 ≤ row ∧ 0 ≤ row + dy ∧ row + dy < source.height)
    (hp : p ∈ target.bounds) :
    (rows.foldl (fun pixels row => copyRow source.pixels pixels
        ⟨source.indexOf (left + dx) (row + dy), target.indexOf left row, (right - left).toNat⟩)
        written)[target.indexOf p.x p.y]? =
      if p.y ∈ rows ∧ left ≤ p.x ∧ p.x < right then
        source.pixels[source.indexOf (p.x + dx) (p.y + dy)]?
      else
        written[target.indexOf p.x p.y]? := by
  induction rows generalizing written with
  | nil => simp
  | cons row rows ih =>
      have here := inside row (by simp)
      rw [List.foldl_cons, ih _ fun r hr => inside r (List.mem_cons_of_mem _ hr),
        getElem?_copyRow_indexOf _ _ _ _ _ _ _ (by omega) (by omega) (by omega) (by omega)
          (by omega) (by omega) (by omega) hp]
      by_cases later : p.y ∈ rows ∧ left ≤ p.x ∧ p.x < right
      · rw [if_pos later, if_pos ⟨List.mem_cons_of_mem _ later.1, later.2⟩]
      · rw [if_neg later]
        by_cases now : p.y = row ∧ left ≤ p.x ∧ p.x < left + (right - left)
        · obtain ⟨rfl, columns⟩ := now
          rw [if_pos ⟨rfl, columns⟩, if_pos ⟨List.mem_cons_self, by omega⟩]
          congr 2
          omega
        · rw [if_neg now, if_neg]
          rintro ⟨hmem, columns⟩
          rcases List.mem_cons.1 hmem with rfl | hmem
          · exact now ⟨rfl, by omega⟩
          · exact later ⟨hmem, columns⟩

/-- The rows of a copy, counted from the rectangle of the target that they cover. -/
lemma blitRows_eq {area : Rect .device} {dest : Point .device} {a covered : Rect .device}
    (ha : area.intersect source.bounds = a) (hne : a.isEmpty = false)
    (hcovered : (Rect.ofOriginSize dest a.size).intersect target.bounds = covered) :
    target.blitRows source area dest = (rowsOf covered).map fun row =>
      ⟨source.indexOf (covered.x + (a.x - dest.x)) (row + (a.y - dest.y)),
        target.indexOf covered.x row, (covered.right - covered.x).toNat⟩ := by
  simp only [blitRows, ha, hne, hcovered, Bool.false_eq_true, if_false]
  refine List.map_congr_left fun row _ => ?_
  simp only [RowCopy.mk.injEq, Rect.right]
  refine ⟨?_, trivial, by omega⟩
  congr 1 <;> omega

/-- **What a copy shows.**  The part `a` of the source that exists is laid so that its origin comes
to lie on `dest`; the target shows it there and is unchanged everywhere else. -/
theorem at?_blit (target source : Bitmap) (area : Rect .device) (dest p : Point .device) :
    (target.blit source area dest).at? p =
      let a := area.intersect source.bounds
      let q := p.offset (a.x - dest.x) (a.y - dest.y)
      if p ∈ target.bounds ∧ q ∈ a then source.at? q else target.at? p := by
  dsimp only
  generalize ha : area.intersect source.bounds = a
  by_cases hp : p ∈ target.bounds
  swap
  · rw [if_neg fun h => hp h.1, at?_of_not_mem hp]
    exact at?_of_not_mem hp
  have same : p ∈ (target.blit source area dest).bounds := hp
  have insideSource : ∀ q, q ∈ a → q ∈ source.bounds := by
    intro q hq
    rw [← ha] at hq
    exact (Rect.mem_intersect.1 hq).2
  rw [at?_of_mem same, at?_of_mem hp]
  by_cases hne : a.isEmpty
  · rw [if_neg fun h => Rect.not_mem_of_isEmpty hne h.2]
    simp only [blit, blitRows, ha, hne, if_true]
    rfl
  generalize hcovered : (Rect.ofOriginSize dest a.size).intersect target.bounds = covered
  have mem_covered : ∀ t : Point .device, t ∈ covered ↔
      t ∈ target.bounds ∧ t.offset (a.x - dest.x) (a.y - dest.y) ∈ a := by
    intro t
    rw [← hcovered, Rect.mem_intersect, Rect.mem_ofOriginSize_size]
    exact and_comm
  show ((target.blitRows source area dest).foldl (copyRow source.pixels) target.pixels)[
    target.indexOf p.x p.y]? = _
  rw [blitRows_eq ha (by simpa using hne) hcovered, List.foldl_map]
  by_cases hcov : covered.isEmpty
  · -- nothing of the source falls on the target, so there is no row to copy
    rw [if_neg fun h => Rect.not_mem_of_isEmpty hcov ((mem_covered p).2 h)]
    rw [← hcovered] at hcov
    rw [← hcovered, Rect.intersect_eq_empty hcov]
    rfl
  · replace hcov := Bool.eq_false_iff.2 hcov
    have wide := (Rect.lt_of_isEmpty_eq_false hcov).1
    obtain ⟨left, right, lines⟩ := sides_of_forall_mem hcov fun t ht => insideSource _
      ((mem_covered t).1 ht).2
    obtain ⟨left', right', lines'⟩ := sides_of_forall_mem hcov fun t ht =>
      (t.offset_zero).symm ▸ ((mem_covered t).1 ht).1
    have rows : ∀ row ∈ rowsOf covered, 0 ≤ row ∧ 0 ≤ row + (a.y - dest.y) ∧
        row + (a.y - dest.y) < source.height := by
      intro row hrow
      have written := lines' row hrow
      have read := lines row hrow
      omega
    rw [getElem?_foldl_copyRow (rowsOf covered) target.pixels (by omega) (by omega) rows hp]
    have hits : (p.y ∈ rowsOf covered ∧ covered.x ≤ p.x ∧ p.x < covered.right) ↔
        p ∈ target.bounds ∧ p.offset (a.x - dest.x) (a.y - dest.y) ∈ a := by
      rw [← mem_covered, mem_rowsOf, Rect.mem_def]
      tauto
    by_cases hit : p.y ∈ rowsOf covered ∧ covered.x ≤ p.x ∧ p.x < covered.right
    · rw [if_pos hit, if_pos (hits.1 hit), at?_of_mem (insideSource _ (hits.1 hit).2)]
      rfl
    · rw [if_neg hit, if_neg fun h => hit (hits.2 h)]

/-- A copy that is made again changes nothing. -/
lemma blit_blit (target source : Bitmap) (area : Rect .device) (dest : Point .device) :
    (target.blit source area dest).blit source area dest = target.blit source area dest := by
  have bounds : (target.blit source area dest).bounds = target.bounds := rfl
  refine eq_of_at? rfl fun p _ => ?_
  rw [at?_blit, at?_blit, bounds]
  dsimp only
  split_ifs <;> rfl

/-! ## Moving content in place -/

/-- Copying rows within one bitmap.  As long as no row is read after it has been written, every
pixel that is read still has its first colour. -/
lemma getElem?_foldl_copyRow_self {left right dx dy : Int} (rows : List Int)
    (order : rows.Pairwise fun earlier later => later - dy ≠ earlier)
    (pixels : Vector UInt32 (b.width * b.height))
    (columns : 0 ≤ left ∧ left ≤ right ∧ right ≤ b.width)
    (sourceColumns : 0 ≤ left - dx ∧ right - dx ≤ b.width)
    (inside : ∀ row ∈ rows, 0 ≤ row ∧ 0 ≤ row - dy ∧ row - dy < b.height)
    (hp : p ∈ b.bounds) :
    (rows.foldl (fun pixels row => copyRow pixels pixels
        ⟨b.indexOf (left - dx) (row - dy), b.indexOf left row, (right - left).toNat⟩)
        pixels)[b.indexOf p.x p.y]? =
      if p.y ∈ rows ∧ left ≤ p.x ∧ p.x < right then
        pixels[b.indexOf (p.x - dx) (p.y - dy)]?
      else
        pixels[b.indexOf p.x p.y]? := by
  induction rows generalizing pixels with
  | nil => simp
  | cons row rows ih =>
      obtain ⟨unread, order⟩ := List.pairwise_cons.1 order
      have here := inside row (by simp)
      rw [List.foldl_cons, ih order _ fun r hr => inside r (List.mem_cons_of_mem _ hr)]
      by_cases later : p.y ∈ rows ∧ left ≤ p.x ∧ p.x < right
      · -- the source row of `p.y` is another one than the row that was written first
        have source := inside p.y (List.mem_cons_of_mem _ later.1)
        have hq : (⟨p.x - dx, p.y - dy⟩ : Point .device) ∈ b.bounds := by
          rw [mem_bounds]
          dsimp only
          omega
        have keeps := getElem?_copyRow_indexOf pixels pixels (left - dx) (row - dy) left row
          (right - left) (by omega) (by omega) (by omega) (by omega) (by omega) (by omega)
          (by omega) hq
        rw [if_pos later, if_pos ⟨List.mem_cons_of_mem _ later.1, later.2⟩, keeps,
          if_neg fun h => unread p.y later.1 h.1]
      · rw [if_neg later, getElem?_copyRow_indexOf _ _ _ _ _ _ _ (by omega) (by omega) (by omega)
          (by omega) (by omega) (by omega) (by omega) hp]
        by_cases now : p.y = row ∧ left ≤ p.x ∧ p.x < left + (right - left)
        · obtain ⟨rfl, columns⟩ := now
          rw [if_pos ⟨rfl, columns⟩, if_pos ⟨List.mem_cons_self, by omega⟩]
          congr 2
          omega
        · rw [if_neg now, if_neg]
          rintro ⟨hmem, columns⟩
          rcases List.mem_cons.1 hmem with rfl | hmem
          · exact now ⟨rfl, by omega⟩
          · exact later ⟨hmem, columns⟩

/-- The rows of a move, in the order in which they are copied. -/
def shiftOrder (dest : Rect .device) (dy : Int) : List Int :=
  if 0 < dy then (rowsOf dest).reverse else rowsOf dest

lemma mem_shiftOrder {dest : Rect .device} {dy y : Int} :
    y ∈ shiftOrder dest dy ↔ dest.y ≤ y ∧ y < dest.bottom := by
  rw [← mem_rowsOf, shiftOrder]
  split_ifs
  · exact List.mem_reverse
  · rfl

/-- Bottom-up when content moves down and top-down otherwise: no row is read after it has been
written. -/
lemma pairwise_shiftOrder (dest : Rect .device) (dy : Int) :
    (shiftOrder dest dy).Pairwise fun earlier later => later - dy ≠ earlier := by
  rw [shiftOrder]
  split_ifs with down
  · rw [List.pairwise_reverse]
    refine (pairwise_rowsOf dest).imp ?_
    intro lower upper h
    omega
  · refine (pairwise_rowsOf dest).imp ?_
    intro upper lower h
    omega

lemma shiftRows_eq {area a dest : Rect .device} {dx dy : Int} (moves : ¬ (dx = 0 ∧ dy = 0))
    (ha : area.intersect b.bounds = a) (hdest : (a.offset dx dy).intersect a = dest) :
    b.shiftRows area dx dy = (shiftOrder dest dy).map fun row =>
      ⟨b.indexOf (dest.x - dx) (row - dy), b.indexOf dest.x row,
        (dest.right - dest.x).toNat⟩ := by
  have wide : dest.right - dest.x = dest.width := by
    simp only [Rect.right]
    omega
  simp only [shiftRows, ha, hdest, if_neg moves, shiftOrder, wide]
  split_ifs
  · rw [List.map_reverse]
  · rfl

/-- **What a move shows.**  A pixel of the area whose source lies in the area too gets the colour
that its source had before; every other pixel keeps its own. -/
theorem at?_shiftWithin (b : Bitmap) (area : Rect .device) (dx dy : Int) (p : Point .device) :
    (b.shiftWithin area dx dy).at? p =
      let a := area.intersect b.bounds
      let q := p.offset (-dx) (-dy)
      if p ∈ a ∧ q ∈ a then b.at? q else b.at? p := by
  dsimp only
  generalize ha : area.intersect b.bounds = a
  have insideBitmap : ∀ q, q ∈ a → q ∈ b.bounds := by
    intro q hq
    rw [← ha] at hq
    exact (Rect.mem_intersect.1 hq).2
  by_cases hp : p ∈ b.bounds
  swap
  · rw [if_neg fun h => hp (insideBitmap p h.1), at?_of_not_mem hp]
    exact at?_of_not_mem hp
  have same : p ∈ (b.shiftWithin area dx dy).bounds := hp
  by_cases moves : dx = 0 ∧ dy = 0
  · obtain ⟨rfl, rfl⟩ := moves
    have still : p.offset (-0) (-0) = p := by
      simp only [Point.offset, Int.neg_zero, Int.add_zero]
    have unmoved : b.shiftWithin area 0 0 = b := by
      simp only [shiftWithin, shiftRows, and_self, if_true]
      rfl
    rw [still, unmoved, ite_self]
  generalize hdest : (a.offset dx dy).intersect a = dest
  have mem_dest : ∀ t : Point .device, t ∈ dest ↔ t ∈ a ∧ t.offset (-dx) (-dy) ∈ a := by
    intro t
    rw [← hdest, Rect.mem_intersect, Rect.mem_offset]
    tauto
  rw [at?_of_mem same, at?_of_mem hp]
  show ((b.shiftRows area dx dy).foldl (fun pixels copy => copyRow pixels pixels copy) b.pixels)[
    b.indexOf p.x p.y]? = _
  rw [shiftRows_eq moves ha hdest, List.foldl_map]
  by_cases hne : dest.isEmpty
  · rw [if_neg fun h => Rect.not_mem_of_isEmpty hne ((mem_dest p).2 h)]
    rw [← hdest] at hne
    rw [← hdest, Rect.intersect_eq_empty hne]
    have none : shiftOrder (Rect.empty : Rect .device) dy = [] := by
      simp [shiftOrder, rowsOf, Rect.empty]
    rw [none]
    rfl
  · replace hne := Bool.eq_false_iff.2 hne
    have wide := (Rect.lt_of_isEmpty_eq_false hne).1
    obtain ⟨left, right, lines⟩ := sides_of_forall_mem hne fun t ht => insideBitmap _
      ((mem_dest t).1 ht).2
    obtain ⟨left', right', lines'⟩ := sides_of_forall_mem hne fun t ht =>
      (t.offset_zero).symm ▸ insideBitmap t ((mem_dest t).1 ht).1
    have rows : ∀ row ∈ shiftOrder dest dy, 0 ≤ row ∧ 0 ≤ row - dy ∧ row - dy < b.height := by
      intro row hrow
      replace hrow := mem_rowsOf.2 (mem_shiftOrder.1 hrow)
      have written := lines' row hrow
      have read := lines row hrow
      omega
    rw [getElem?_foldl_copyRow_self (shiftOrder dest dy) (pairwise_shiftOrder dest dy) b.pixels
      (by omega) (by omega) rows hp]
    have hits : (p.y ∈ shiftOrder dest dy ∧ dest.x ≤ p.x ∧ p.x < dest.right) ↔
        p ∈ a ∧ p.offset (-dx) (-dy) ∈ a := by
      rw [← mem_dest, mem_shiftOrder, Rect.mem_def]
      tauto
    by_cases hit : p.y ∈ shiftOrder dest dy ∧ dest.x ≤ p.x ∧ p.x < dest.right
    · rw [if_pos hit, if_pos (hits.1 hit), at?_of_mem (insideBitmap _ (hits.1 hit).2)]
      rfl
    · rw [if_neg hit, if_neg fun h => hit (hits.2 h)]

end Bitmap

end TiledView
