import Mathlib.Data.List.Sort
import TiledView.Proofs.Tiling.Partition

/-!
# Which indices are listed, and in which order

`Tiling.overlapping` works through the rows that meet an area, and in each of them through the
columns.  Tiles are counted in an extent of `Tiling.maxExtent` pixels at most, while rows and columns
are looked for in the whole extent.  Beyond the last column that is counted the numbers of the next
row begin, and beyond the last row there are no tiles.

* `Tiling.pairwise_overlapping` — up to that width, indices are listed in ascending order, and so no
  tile is listed twice (`Tiling.nodup_overlapping`).
* `Tiling.overlapping_eq_filter` — where all tiles are counted, they are the ones that a look at each
  tile would find.  `Tiling.overlapping_ofSize` says so of the tilings of any extent that is counted,
  in terms of the rectangle of the cell that an index names (`Tiling.meets`).
* `Tiling.forall_lt_count_iff` — every index that is listed is the one of a tile exactly if the tiles
  that are counted reach to the far edges of the extent.
-/

namespace TiledView

namespace Tiling

variable {t : Tiling} {p : Point .device}

/-! ## Order -/

/-- Up to the extent that is counted, the columns that meet an area have numbers below the count. -/
lemma lt_columns_of_mem_span {low high : Int} {column : Nat} (width : t.size.width ≤ maxExtent)
    (nonneg : 0 ≤ low) (some : low < high) (inside : high ≤ t.size.width)
    (mem : column ∈ t.span low high) : column < t.columns := by
  have pos := t.edge_pos_int
  have last : ((high - 1) / t.edge).toNat < t.columns :=
    div_edge_lt_tilesAlong (by omega) (by omega) width
  have first : low / t.edge ≤ (high - 1) / t.edge := Int.ediv_le_ediv pos (by omega)
  rw [span, List.mem_range'_1] at mem
  omega

/-- **Tiles are listed in ascending order** in an extent that all tiles are counted in. -/
theorem pairwise_overlapping (width : t.size.width ≤ maxExtent) (area : Rect .device) :
    (t.overlapping area).Pairwise (· < ·) := by
  simp only [overlapping]
  split_ifs with empty
  · exact .nil
  · obtain ⟨p, mem⟩ := Rect.isEmpty_eq_false_iff.1 (Bool.eq_false_iff.2 empty)
    generalize narrowed : area.intersect (.ofSize t.size) = clipped at mem
    obtain ⟨left, right, top, bottom⟩ := Rect.mem_def.1 mem
    have inside (x : Int) (after : clipped.x ≤ x) (before : x < clipped.right) :
        0 ≤ x ∧ x < t.size.width := by
      have mem : (⟨x, p.y⟩ : Point .device) ∈ clipped := ⟨after, before, top, bottom⟩
      rw [← narrowed, Rect.mem_intersect, Rect.mem_ofSize] at mem
      exact ⟨mem.2.1, mem.2.2.1⟩
    have first := inside clipped.x (by omega) (by omega)
    have last := inside (clipped.right - 1) (by omega) (by omega)
    have counted : ∀ column ∈ t.span clipped.x clipped.right, column < t.columns := fun _ =>
      lt_columns_of_mem_span width first.1 (by omega) (Int.le_of_sub_one_lt last.2)
    refine List.pairwise_flatMap.2 ⟨fun row _ => ?_, ?_⟩
    · rw [List.pairwise_map]
      exact List.Pairwise.imp (fun lt => Nat.add_lt_add_left lt _) List.pairwise_lt_range'
    · refine List.Pairwise.imp (fun {row row'} lt => ?_) List.pairwise_lt_range'
      -- All of a row comes before the first tile of the next one.
      have next : (row + 1) * t.columns ≤ row' * t.columns := Nat.mul_le_mul_right _ lt
      rw [Nat.succ_mul] at next
      intro index here index' there
      obtain ⟨column, mem, rfl⟩ := List.mem_map.1 here
      obtain ⟨column', -, rfl⟩ := List.mem_map.1 there
      have before := counted column mem
      omega

/-- **No tile is listed twice** in an extent that all tiles are counted in. -/
theorem nodup_overlapping (width : t.size.width ≤ maxExtent) (area : Rect .device) :
    (t.overlapping area).Nodup :=
  (pairwise_overlapping width area).imp Nat.ne_of_lt

/-- **Where all tiles are counted, a look at each of them would find the same ones.** -/
theorem overlapping_eq_filter (hwidth : t.size.width ≤ maxExtent)
    (hheight : t.size.height ≤ maxExtent) (area : Rect .device) :
    t.overlapping area =
      (List.range t.count).filter fun index => (t.rect (t.cellOf index)).intersects area := by
  refine (pairwise_overlapping hwidth area).eq_of_mem_iff (List.pairwise_lt_range.filter _)
    fun index => ?_
  rw [mem_overlapping_iff_intersects hwidth hheight, List.mem_filter, List.mem_range]

/-- Whether the tile with an index meets `area`, by a look at this tile alone. -/
def meets (t : Tiling) (area : Rect .device) (index : Nat) : Bool :=
  match t.cell index with
  | .ok cell => (t.rect cell).intersects area
  | .error _ => false

lemma meets_of_lt {index : Nat} (h : index < t.count) (area : Rect .device) :
    t.meets area index = (t.rect (t.cellOf index)).intersects area := by
  rw [meets, cell_of_lt h]

/-- **The tiles that meet an area are listed once each, in ascending order,** whatever edge is asked
for and wherever the area lies: they are those of all tiles of which each by itself meets it. -/
theorem overlapping_ofSize (size : Size .device) (edge : Nat) (hwidth : size.width ≤ maxExtent)
    (hheight : size.height ≤ maxExtent) (area : Rect .device) :
    let t := ofSize size edge
    (t.overlapping area).Pairwise (· < ·) ∧
      t.overlapping area = (List.range t.count).filter (t.meets area) := by
  refine ⟨pairwise_overlapping hwidth area, ?_⟩
  rw [overlapping_eq_filter hwidth hheight]
  refine List.filter_congr fun index mem => ?_
  exact (meets_of_lt (List.mem_range.1 mem) area).symm

/-- The area starts above the extent and with the first pixel of the second column, and it ends
before the second row and with the one pixel of the last column. -/
theorem overlapping_ofSize_narrow :
    let t := ofSize ⟨33, 20⟩ 16
    let area : Rect .device := ⟨16, -4, 17, 20⟩
    t.size.width ≤ maxExtent ∧ t.size.height ≤ maxExtent ∧ t.count = 6 ∧
      (t.overlapping area).Pairwise (· < ·) ∧
      t.overlapping area = (List.range 6).filter (t.meets area) ∧ t.overlapping area = [1, 2] :=
  have listed := overlapping_ofSize ⟨33, 20⟩ 16 (by decide) (by decide) ⟨16, -4, 17, 20⟩
  ⟨by decide, by decide, by decide, listed.1, listed.2, by decide⟩

/-- An area that covers the extent meets every tile. -/
lemma overlapping_eq_range (hwidth : t.size.width ≤ maxExtent)
    (hheight : t.size.height ≤ maxExtent) {area : Rect .device}
    (covers : ∀ p ∈ Rect.ofSize t.size, p ∈ area) : t.overlapping area = List.range t.count := by
  rw [overlapping_eq_filter hwidth hheight, List.filter_eq_self]
  intro index mem
  obtain ⟨p, inside⟩ := Rect.isEmpty_eq_false_iff.1
    (isEmpty_rect_of_holds (holds_cellOf (List.mem_range.1 mem)))
  exact Rect.intersects_iff.2 ⟨p, inside, covers p (mem_ofSize_of_mem_rect inside)⟩

/-! ## Bounds -/

/-- The tiles that are counted reach to the far edges of the extent, unless it has no pixel. -/
def CountsAll (t : Tiling) : Prop :=
  0 < t.size.width → 0 < t.size.height →
    t.size.width ≤ t.columns * t.edge ∧ t.size.height ≤ t.rows * t.edge

/-- Along an axis, the tiles that are counted reach as far as the pixels that count. -/
lemma min_le_tilesAlong_mul (extent : Int) :
    min extent.toNat maxExtent ≤ t.tilesAlong extent * t.edge := by
  have split := Nat.div_add_mod (min extent.toNat maxExtent + t.edge - 1) t.edge
  have rest := Nat.mod_lt (min extent.toNat maxExtent + t.edge - 1) t.edge_pos
  rw [tilesAlong, Nat.mul_comm]
  omega

/-- Up to the extent that is counted, all tiles are. -/
lemma countsAll_of_le (hwidth : t.size.width ≤ maxExtent) (hheight : t.size.height ≤ maxExtent) :
    t.CountsAll := by
  have width := t.min_le_tilesAlong_mul t.size.width
  have height := t.min_le_tilesAlong_mul t.size.height
  intro _ _
  rw [columns, rows, ← Int.natCast_mul, ← Int.natCast_mul]
  omega

/-- No more tiles are counted than there are. -/
lemma tilesAlong_le {extent : Int} (pos : 0 < extent) :
    t.tilesAlong extent ≤ ((extent - 1) / t.edge).toNat + 1 := by
  obtain ⟨n, rfl⟩ : ∃ n : Nat, extent = n + 1 := ⟨(extent - 1).toNat, by omega⟩
  have quotient : (((n : Int) + 1 - 1) / t.edge).toNat = n / t.edge := by
    rw [Int.add_sub_cancel, ← Int.natCast_ediv, Int.toNat_natCast]
  have whole : (n + t.edge) / t.edge = n / t.edge + 1 := Nat.add_div_right n t.edge_pos
  rw [quotient, ← whole, tilesAlong]
  exact Nat.div_le_div_right (by omega)

/-- The column or row of a pixel is below `k` if `k` tiles reach past the pixel. -/
lemma div_edge_lt_iff {x : Int} {k : Nat} (nonneg : 0 ≤ x) :
    (x / t.edge).toNat < k ↔ x < k * t.edge := by
  have quotient : 0 ≤ x / t.edge := Int.ediv_nonneg nonneg (Int.le_of_lt t.edge_pos_int)
  rw [← Int.ediv_lt_iff_lt_mul t.edge_pos_int]
  omega

/-- An index below the number of tiles leaves room for neither a surplus column in the last row nor
a surplus row. -/
lemma lt_of_index_lt {columns rows column row : Nat} (lastColumn : columns ≤ column + 1)
    (lastRow : rows ≤ row + 1) (lt : row * columns + column < rows * columns) :
    column < columns ∧ row < rows := by
  constructor
  · by_contra beyond
    have whole : rows * columns ≤ (row + 1) * columns := Nat.mul_le_mul_right _ lastRow
    rw [Nat.succ_mul] at whole
    omega
  · by_contra beyond
    have whole : rows * columns ≤ row * columns := Nat.mul_le_mul_right _ (Nat.le_of_not_lt beyond)
    omega

/-- **Every index that is listed is the one of a tile** exactly if the tiles that are counted reach
to the far edges of the extent. -/
theorem forall_lt_count_iff :
    (∀ area, ∀ index ∈ t.overlapping area, index < t.count) ↔ t.CountsAll := by
  constructor
  · intro bounded width height
    -- The last index of all is the one of the pixel in the far corner.
    have corner : (⟨t.size.width - 1, t.size.height - 1⟩ : Point .device) ∈ Rect.ofSize t.size :=
      Rect.mem_ofSize.2 (by dsimp only; omega)
    have last := bounded _ _ (indexAt_mem_overlapping corner corner)
    rw [indexAt, count, Nat.mul_comm t.columns] at last
    obtain ⟨column, row⟩ := lt_of_index_lt (tilesAlong_le width) (tilesAlong_le height) last
    rw [div_edge_lt_iff (Int.le_sub_one_of_lt width)] at column
    rw [div_edge_lt_iff (Int.le_sub_one_of_lt height)] at row
    exact ⟨Int.le_of_sub_one_lt column, Int.le_of_sub_one_lt row⟩
  · intro reaches area index mem
    obtain ⟨p, -, inside, rfl⟩ := mem_overlapping_iff.1 mem
    obtain ⟨left, right, top, bottom⟩ := Rect.mem_ofSize.1 inside
    obtain ⟨width, height⟩ := reaches (Int.lt_of_le_of_lt left right) (Int.lt_of_le_of_lt top bottom)
    exact row_mul_columns_add_lt ⟨(div_edge_lt_iff left).2 (Int.lt_of_lt_of_le right width),
      (div_edge_lt_iff top).2 (Int.lt_of_lt_of_le bottom height)⟩

end Tiling

end TiledView
