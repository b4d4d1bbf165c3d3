import TiledView.Proofs.Bitmap.Copy

/-!
# Row copies stay inside their bitmaps

Reading a row beyond the last pixel yields a shorter row, writing one there leaves the rest of it
out, and a coordinate below zero counts as zero where it becomes an index.  Copies that stay inside
their bitmaps rely on none of this, and all copies do that are ever carried out:

* `RowCopy.Carries` — a copy reads a run of pixels within a row of the source and writes one within a
  row of the target, both at the indices that their coordinates name.
* `Bitmap.carries_blitRows`, `Bitmap.carries_shiftRows` — the copies of which the two moves consist.

For both of them a rectangle has been clipped to the target, and with it its counterpart to the
source.  `Bitmap.holdsRun_of_forall_mem` goes from the pixels of such a rectangle to its rows.
-/

namespace TiledView

namespace Bitmap

variable {b source target : Bitmap} {p : Point .device} {count : Nat}

/-- `count` pixels from `p` on to the right are pixels of the bitmap. -/
def HoldsRun (b : Bitmap) (p : Point .device) (count : Nat) : Prop :=
  0 ≤ p.x ∧ p.x + count ≤ b.width ∧ 0 ≤ p.y ∧ p.y < b.height

/-- Within the bitmap, the index of a pixel is the one that its coordinates name as integers. -/
lemma HoldsRun.indexOf_eq (h : b.HoldsRun p count) :
    (b.indexOf p.x p.y : Int) = p.y * b.width + p.x := by
  obtain ⟨left, -, top, -⟩ := h
  rw [indexOf, Int.natCast_add, Int.natCast_mul, Int.toNat_of_nonneg left, Int.toNat_of_nonneg top]

lemma HoldsRun.indexOf_add_le (h : b.HoldsRun p count) :
    b.indexOf p.x p.y + count ≤ b.width * b.height := by
  obtain ⟨left, right, top, bottom⟩ := h
  have rows : (p.y.toNat + 1) * b.width ≤ b.height * b.width :=
    Nat.mul_le_mul_right b.width (by omega)
  rw [Nat.succ_mul, Nat.mul_comm b.height] at rows
  rw [indexOf]
  omega

/-- The rows of a rectangle are runs of the bitmap, if its pixels, moved by `(dx, dy)`, are pixels of
the bitmap. -/
lemma holdsRun_of_forall_mem {r : Rect .device} {dx dy row : Int} (hne : r.isEmpty = false)
    (inside : ∀ q ∈ r, q.offset dx dy ∈ b.bounds) (hrow : row ∈ rowsOf r) :
    b.HoldsRun (Point.offset ⟨r.x, row⟩ dx dy) r.width.toNat := by
  obtain ⟨left, right, rows⟩ := sides_of_forall_mem hne inside
  have wide := (Rect.lt_of_isEmpty_eq_false hne).1
  have line := rows row hrow
  simp only [Rect.right] at right wide
  simp only [HoldsRun, Point.x_offset, Point.y_offset]
  omega

end Bitmap

/-! ## What a copy carries -/

/-- The copy carries a run of pixels of `source` by `(dx, dy)` and stays inside both bitmaps. -/
structure RowCopy.Carries (copy : RowCopy) (source target : Bitmap) (dx dy : Int) : Prop where
  /-- The first pixel that is written, and the run that begins with it.  The run that is read begins
  at the pixel that is carried to it, and neither one leaves its row. -/
  runs : ∃ p : Point .device, target.HoldsRun p copy.count ∧
    source.HoldsRun (p.offset (-dx) (-dy)) copy.count ∧
    (copy.target : Int) = p.y * target.width + p.x ∧
    (copy.source : Int) = (p.y - dy) * source.width + (p.x - dx)
  reads : copy.source + copy.count ≤ source.width * source.height
  writes : copy.target + copy.count ≤ target.width * target.height

namespace Bitmap

variable {b source target : Bitmap}

lemma carries_of_holdsRun {p : Point .device} {dx dy : Int} {count : Nat}
    (written : target.HoldsRun p count) (read : source.HoldsRun (p.offset (-dx) (-dy)) count) :
    RowCopy.Carries ⟨source.indexOf (p.x - dx) (p.y - dy), target.indexOf p.x p.y, count⟩ source
      target dx dy where
  runs := ⟨p, written, read, written.indexOf_eq, read.indexOf_eq⟩
  reads := read.indexOf_add_le
  writes := written.indexOf_add_le

/-- One row of a rectangle of the target, if the pixels of the rectangle are pixels of the target and
come from pixels of the source. -/
lemma carries_row {r : Rect .device} {dx dy row : Int} (hne : r.isEmpty = false)
    (written : ∀ q ∈ r, q ∈ target.bounds) (read : ∀ q ∈ r, q.offset (-dx) (-dy) ∈ source.bounds)
    (hrow : row ∈ rowsOf r) :
    RowCopy.Carries ⟨source.indexOf (r.x - dx) (row - dy), target.indexOf r.x row, r.width.toNat⟩
      source target dx dy := by
  have run : target.HoldsRun (Point.offset ⟨r.x, row⟩ 0 0) r.width.toNat :=
    holdsRun_of_forall_mem hne (fun q hq => (q.offset_zero).symm ▸ written q hq) hrow
  rw [Point.offset_zero] at run
  exact carries_of_holdsRun run (holdsRun_of_forall_mem hne read hrow)

/-- Where nothing is left of a rectangle after clipping, there are no rows either. -/
lemma isEmpty_of_mem_rowsOf {r s : Rect .device} {row : Int} (h : row ∈ rowsOf (r.intersect s)) :
    (r.intersect s).isEmpty = false := by
  refine Bool.eq_false_iff.2 fun hne => ?_
  rw [Rect.intersect_eq_empty hne, mem_rowsOf] at h
  simp only [Rect.empty, Rect.bottom] at h
  omega

/-- **A copy between bitmaps leaves neither of them.** -/
theorem carries_blitRows (target source : Bitmap) (area : Rect .device) (dest : Point .device) :
    let a := area.intersect source.bounds
    ∀ copy ∈ target.blitRows source area dest,
      copy.Carries source target (dest.x - a.x) (dest.y - a.y) := by
  dsimp only
  generalize ha : area.intersect source.bounds = a
  have insideSource (q : Point .device) (hq : q ∈ a) : q ∈ source.bounds :=
    (Rect.mem_intersect.1 (ha.symm ▸ hq)).2
  intro copy mem
  by_cases hne : a.isEmpty
  · simp only [blitRows, ha, hne, if_true] at mem
    exact absurd mem List.not_mem_nil
  · rw [blitRows_eq ha (Bool.eq_false_iff.2 hne) rfl] at mem
    obtain ⟨row, hrow, rfl⟩ := List.mem_map.1 mem
    have some := isEmpty_of_mem_rowsOf hrow
    generalize hcovered : (Rect.ofOriginSize dest a.size).intersect target.bounds = covered
      at hrow some ⊢
    have written (q : Point .device) (hq : q ∈ covered) : q ∈ target.bounds :=
      (Rect.mem_intersect.1 (hcovered.symm ▸ hq)).2
    have read : ∀ q ∈ covered, q.offset (-(dest.x - a.x)) (-(dest.y - a.y)) ∈ source.bounds := by
      intro q hq
      rw [← hcovered, Rect.mem_intersect, Rect.mem_ofOriginSize_size] at hq
      rw [Int.neg_sub, Int.neg_sub]
      exact insideSource _ hq.1
    have column : covered.x + (a.x - dest.x) = covered.x - (dest.x - a.x) := by omega
    have line : row + (a.y - dest.y) = row - (dest.y - a.y) := by omega
    have wide : covered.right - covered.x = covered.width := by
      rw [Rect.right]
      omega
    rw [column, line, wide]
    exact carries_row some written read hrow

/-- **Content that moves within a bitmap does not leave it.** -/
theorem carries_shiftRows (b : Bitmap) (area : Rect .device) (dx dy : Int) :
    ∀ copy ∈ b.shiftRows area dx dy, copy.Carries b b dx dy := by
  intro copy mem
  by_cases moves : dx = 0 ∧ dy = 0
  · simp only [shiftRows, if_pos moves] at mem
    exact absurd mem List.not_mem_nil
  · rw [shiftRows_eq moves rfl rfl] at mem
    obtain ⟨row, hrow, rfl⟩ := List.mem_map.1 mem
    replace hrow := mem_rowsOf.2 (mem_shiftOrder.1 hrow)
    have some := isEmpty_of_mem_rowsOf hrow
    generalize ha : area.intersect b.bounds = a at hrow some ⊢
    generalize hdest : (a.offset dx dy).intersect a = dest at hrow some ⊢
    have insideBitmap (q : Point .device) (hq : q ∈ a) : q ∈ b.bounds :=
      (Rect.mem_intersect.1 (ha.symm ▸ hq)).2
    have inside : ∀ q ∈ dest, q.offset (-dx) (-dy) ∈ a ∧ q ∈ a := by
      intro q hq
      rwa [← hdest, Rect.mem_intersect, Rect.mem_offset] at hq
    have wide : dest.right - dest.x = dest.width := by
      rw [Rect.right]
      omega
    rw [wide]
    exact carries_row some (fun q hq => insideBitmap q (inside q hq).2)
      (fun q hq => insideBitmap _ (inside q hq).1) hrow

end Bitmap

end TiledView
