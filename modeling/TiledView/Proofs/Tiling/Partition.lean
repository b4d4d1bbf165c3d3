import TiledView.Proofs.Tiling

/-!
# Tiles partition the extent

Up to `Tiling.maxExtent` pixels along each axis, a tiling does what its name says.  Indices and cells
name the same tiles, each in its own way; every tile has pixels, all of them in the extent; and every
pixel of the extent is in one tile, the one at its quotients by the edge.

`Tiling.Partitions` is all of this, and `Tiling.partitions_ofSize` proves it for any edge that is
asked for.  A last column or row of one pixel is no exception: a column is counted as soon as its
first pixel is in the extent (`Tiling.lt_tilesAlong_iff`), and then its rectangle is not empty.
-/

namespace TiledView

namespace Tiling

variable {t : Tiling} {cell : Cell} {index : Nat} {p : Point .device}

/-- The tiles partition the extent. -/
structure Partitions (t : Tiling) : Prop where
  /-- Cells and indices are two names for the same tiles. -/
  inverse : ∀ index cell, t.cell index = .ok cell ↔ t.index cell = .ok index
  named : ∀ index, index < t.count → ∃ cell, t.Holds cell ∧ t.cell index = .ok cell
  unnamed : ∀ index, t.count ≤ index → t.cell index = .error .outOfBounds
  numbered : ∀ cell, t.Holds cell → ∃ index < t.count, t.index cell = .ok index
  unnumbered : ∀ cell, ¬ t.Holds cell → t.index cell = .error .outOfBounds
  nonempty : ∀ cell, t.Holds cell → (t.rect cell).isEmpty = false
  inside : ∀ cell, t.Holds cell → ∀ p ∈ t.rect cell, p ∈ Rect.ofSize t.size
  /-- Every pixel of the extent has a tile. -/
  covered : ∀ p ∈ Rect.ofSize t.size, t.Holds (t.cellAt p)
  /-- It is in the rectangle of this tile and in no other one. -/
  only : ∀ p ∈ Rect.ofSize t.size, ∀ cell, p ∈ t.rect cell ↔ cell = t.cellAt p

/-! ## Cells and indices -/

lemma cell_of_lt (h : index < t.count) : t.cell index = .ok (t.cellOf index) := if_pos h

lemma cell_of_le (h : t.count ≤ index) : t.cell index = .error .outOfBounds :=
  if_neg (Nat.not_lt.2 h)

lemma index_of_holds (h : t.Holds cell) : t.index cell = .ok (cell.row * t.columns + cell.column) :=
  if_pos h

lemma index_of_not_holds (h : ¬ t.Holds cell) : t.index cell = .error .outOfBounds := if_neg h

lemma holds_cellOf (h : index < t.count) : t.Holds (t.cellOf index) := by
  have columns_pos : 0 < t.columns := Nat.pos_of_mul_pos_right (Nat.zero_lt_of_lt h)
  refine ⟨Nat.mod_lt index columns_pos, ?_⟩
  rw [cellOf, Nat.div_lt_iff_lt_mul columns_pos, Nat.mul_comm]
  exact h

/-- **Cells and indices are inverse to each other.** -/
theorem cell_eq_ok_iff : t.cell index = .ok cell ↔ t.index cell = .ok index := by
  constructor
  · intro found
    rcases Nat.lt_or_ge index t.count with inside | outside
    · rw [cell_of_lt inside, Except.ok.injEq] at found
      subst found
      rw [index_of_holds (holds_cellOf inside), cellOf, Nat.div_add_mod']
    · cases (cell_of_le outside).symm.trans found
  · intro found
    by_cases holds : t.Holds cell
    · rw [index_of_holds holds, Except.ok.injEq] at found
      subst found
      rw [cell_of_lt (row_mul_columns_add_lt holds), cellOf_row_mul_columns_add holds.1]
    · cases (index_of_not_holds holds).symm.trans found

/-! ## Rectangles -/

/-- A column or row is counted if its first pixel is among those that count. -/
lemma lt_tilesAlong_iff {extent : Int} {k : Nat} :
    k < t.tilesAlong extent ↔ k * t.edge < min extent.toNat maxExtent := by
  rw [tilesAlong, ← Nat.succ_le_iff, Nat.le_div_iff_mul_le t.edge_pos, Nat.succ_mul]
  have pos := t.edge_pos
  omega

/-- The first pixel of a tile is in the tile. -/
lemma isEmpty_rect_of_holds (h : t.Holds cell) : (t.rect cell).isEmpty = false := by
  have column := lt_tilesAlong_iff.1 h.1
  have row := lt_tilesAlong_iff.1 h.2
  have pos := t.edge_pos_int
  refine Rect.isEmpty_eq_false_iff.2 ⟨⟨cell.column * t.edge, cell.row * t.edge⟩, mem_rect.2 ?_⟩
  simp only [Int.add_mul, Int.one_mul, ← Int.natCast_mul]
  omega

/-! ## The partition -/

/-- **Tiles partition the extent**, whatever edge is asked for. -/
theorem partitions_ofSize (size : Size .device) (edge : Nat) (hwidth : size.width ≤ maxExtent)
    (hheight : size.height ≤ maxExtent) : (ofSize size edge).Partitions where
  inverse index cell := cell_eq_ok_iff
  named index h := ⟨_, holds_cellOf h, cell_of_lt h⟩
  unnamed index := cell_of_le
  numbered cell h := ⟨_, row_mul_columns_add_lt h, index_of_holds h⟩
  unnumbered cell := index_of_not_holds
  nonempty cell := isEmpty_rect_of_holds
  inside cell _ p := mem_ofSize_of_mem_rect
  covered p hp := holds_cellAt hp hwidth hheight
  only p hp cell := by
    refine ⟨fun h => (cellAt_eq_of_mem_rect h).symm, ?_⟩
    rintro rfl
    exact mem_rect_cellAt hp

/-- The last column of an extent of 33 by 20 pixels is one pixel wide. -/
theorem partitions_ofSize_narrow :
    let t := ofSize ⟨33, 20⟩ 16
    t.Partitions ∧ t.count = 6 ∧ t.rect ⟨2, 1⟩ = ⟨32, 16, 1, 4⟩ ∧ t.cell 5 = .ok ⟨2, 1⟩ ∧
      t.cellAt ⟨32, 19⟩ = ⟨2, 1⟩ :=
  ⟨partitions_ofSize ⟨33, 20⟩ 16 (by decide) (by decide), by decide, by decide, by decide,
    by decide⟩

end Tiling

end TiledView
