import TiledView.Bitmap.Basic
import TiledView.Tiling
import TiledView.Proofs.Plane.Regions

/-!
# Tiles and the pixels they cover

Every pixel of an extent lies in exactly one tile.  `Tiling.indexAt` names it, and three lemmas tie
it to what the caches compute with:

* `Tiling.indexAt_mem_overlapping` — the tile of a pixel is among those that meet an area around it;
* `Tiling.mem_overlapping_iff` — and each of those is the tile of a pixel of the area;
* `Tiling.indexAt_eq_of_mem_rect` — a pixel of a tile's rectangle has that tile's index.

Clipped tiles are the last ones of their row or column only, so the place of a pixel within its
tile is a remainder by the edge (`Tiling.withinTile`) whatever the tile.  `Tiling.picture` puts the
bitmaps of the tiles together: it is what the whole extent looks like when tile `i` shows
`content i`.
-/

namespace TiledView

namespace Tiling

/-- Column and row of the tile in which a pixel of the extent lies. -/
def cellAt (t : Tiling) (p : Point .device) : Cell :=
  ⟨(p.x / t.edge).toNat, (p.y / t.edge).toNat⟩

/-- Index of the tile in which a pixel of the extent lies. -/
def indexAt (t : Tiling) (p : Point .device) : Nat :=
  (t.cellAt p).row * t.columns + (t.cellAt p).column

/-- The cell of the tile with index `index`. -/
def cellOf (t : Tiling) (index : Nat) : Cell := ⟨index % t.columns, index / t.columns⟩

/-- The tiling has a tile in this cell. -/
def Holds (t : Tiling) (cell : Cell) : Prop := cell.column < t.columns ∧ cell.row < t.rows

/-- Place of a pixel within its tile. -/
def withinTile (t : Tiling) (p : Point .device) : Point .device := ⟨p.x % t.edge, p.y % t.edge⟩

/-- What the extent looks like when tile `i` shows `content i`. -/
def picture (t : Tiling) (content : Nat → Bitmap) (p : Point .device) : Option UInt32 :=
  (content (t.indexAt p)).at? (t.withinTile p)

/-- In `content`, every tile has a bitmap of its own size. -/
def Fits (t : Tiling) (content : Nat → Bitmap) : Prop :=
  ∀ index, index < t.count →
    (content index).width = (t.rect (t.cellOf index)).width.toNat ∧
      (content index).height = (t.rect (t.cellOf index)).height.toNat

variable {t : Tiling} {cell : Cell} {p : Point .device}

lemma edge_pos_int (t : Tiling) : (0 : Int) < t.edge := Int.ofNat_lt.2 t.edge_pos

/-! ## Columns and rows -/

lemma div_edge_lt_tilesAlong {extent x : Int} (hx : 0 ≤ x) (hlt : x < extent)
    (hextent : extent ≤ maxExtent) : (x / t.edge).toNat < t.tilesAlong extent := by
  obtain ⟨n, rfl⟩ := Int.eq_ofNat_of_zero_le hx
  have hpos := t.edge_pos
  have quotient : ((n : Int) / t.edge).toNat = n / t.edge := by
    rw [← Int.natCast_ediv, Int.toNat_natCast]
  have below : n / t.edge * t.edge ≤ n := Nat.div_mul_le_self n t.edge
  rw [quotient, tilesAlong, ← Nat.succ_le_iff, Nat.le_div_iff_mul_le hpos, Nat.succ_mul]
  omega

lemma holds_cellAt (hp : p ∈ Rect.ofSize t.size) (hwidth : t.size.width ≤ maxExtent)
    (hheight : t.size.height ≤ maxExtent) : t.Holds (t.cellAt p) := by
  rw [Rect.mem_ofSize] at hp
  exact ⟨div_edge_lt_tilesAlong hp.1 hp.2.1 hwidth, div_edge_lt_tilesAlong hp.2.2.1 hp.2.2.2 hheight⟩

lemma mem_span {low high x : Int} (hlow : low ≤ x) (hhigh : x < high) :
    (x / t.edge).toNat ∈ t.span low high := by
  have hpos := t.edge_pos_int
  have first : low / t.edge ≤ x / t.edge := Int.ediv_le_ediv hpos hlow
  have last : x / t.edge ≤ (high - 1) / t.edge := Int.ediv_le_ediv hpos (by omega)
  rw [span, List.mem_range'_1]
  omega

/-! ## Cells and indices -/

lemma row_mul_columns_add_lt (h : t.Holds cell) :
    cell.row * t.columns + cell.column < t.count := by
  have below : (cell.row + 1) * t.columns ≤ t.rows * t.columns := Nat.mul_le_mul_right _ h.2
  have column := h.1
  rw [Nat.succ_mul] at below
  rw [count, Nat.mul_comm t.columns]
  omega

lemma cellOf_row_mul_columns_add (column : cell.column < t.columns) :
    t.cellOf (cell.row * t.columns + cell.column) = cell := by
  rw [cellOf, Nat.mul_add_mod', Nat.mod_eq_of_lt column, Nat.add_comm,
    Nat.add_mul_div_right _ _ (Nat.zero_lt_of_lt column), Nat.div_eq_of_lt column, Nat.zero_add]

/-! ## The tile of a pixel -/

/-- The tile of a pixel is one of those that meet an area with the pixel in it. -/
lemma indexAt_mem_overlapping {area : Rect .device} (harea : p ∈ area)
    (hp : p ∈ Rect.ofSize t.size) : t.indexAt p ∈ t.overlapping area := by
  have hclipped : p ∈ area.intersect (.ofSize t.size) := Rect.mem_intersect.2 ⟨harea, hp⟩
  have hne : (area.intersect (.ofSize t.size)).isEmpty = false :=
    Rect.isEmpty_eq_false_iff.2 ⟨p, hclipped⟩
  have edges := Rect.mem_def.1 hclipped
  rw [overlapping]
  simp only [hne, Bool.false_eq_true, if_false, List.mem_flatMap, List.mem_map]
  exact ⟨_, mem_span edges.2.2.1 edges.2.2.2, _, mem_span edges.1 edges.2.1, rfl⟩

lemma mem_rect :
    p ∈ t.rect cell ↔ (cell.column * t.edge : Int) ≤ p.x ∧ p.x < (cell.column + 1) * t.edge ∧
      (cell.row * t.edge : Int) ≤ p.y ∧ p.y < (cell.row + 1) * t.edge ∧
      p.x < t.size.width ∧ p.y < t.size.height := by
  simp only [rect, Rect.mem_ofEdges, Int.add_mul, Int.one_mul]
  omega

/-- A pixel that lies between two neighbouring multiples of the edge has the first one as its
quotient. -/
lemma div_edge_eq {x : Int} {k : Nat} (hlow : (k * t.edge : Int) ≤ x)
    (hhigh : x < (k + 1) * t.edge) : x / t.edge = k := by
  have hpos := t.edge_pos_int
  have lower : (k : Int) ≤ x / t.edge := (Int.le_ediv_iff_mul_le hpos).2 hlow
  have upper : x / t.edge < k + 1 := (Int.ediv_lt_iff_lt_mul hpos).2 hhigh
  omega

lemma cellAt_eq_of_mem_rect (hp : p ∈ t.rect cell) : t.cellAt p = cell := by
  obtain ⟨left, right, top, bottom, -, -⟩ := mem_rect.1 hp
  rw [cellAt, div_edge_eq left right, div_edge_eq top bottom, Int.toNat_natCast,
    Int.toNat_natCast]

lemma indexAt_eq_of_mem_rect {index : Nat} (hp : p ∈ t.rect (t.cellOf index)) :
    t.indexAt p = index := by
  rw [indexAt, cellAt_eq_of_mem_rect hp]
  exact Nat.div_add_mod' index t.columns

/-- Every pixel of the extent has a tile. -/
lemma indexAt_lt_count (hp : p ∈ Rect.ofSize t.size) (hwidth : t.size.width ≤ maxExtent)
    (hheight : t.size.height ≤ maxExtent) : t.indexAt p < t.count :=
  row_mul_columns_add_lt (holds_cellAt hp hwidth hheight)

/-- A pixel of the extent lies in the rectangle of its cell, also if that cell is not counted. -/
lemma mem_rect_cellAt (hp : p ∈ Rect.ofSize t.size) : p ∈ t.rect (t.cellAt p) := by
  have hpos := t.edge_pos_int
  rw [Rect.mem_ofSize] at hp
  rw [mem_rect]
  simp only [cellAt, Int.toNat_of_nonneg (Int.ediv_nonneg hp.1 (Int.le_of_lt hpos)),
    Int.toNat_of_nonneg (Int.ediv_nonneg hp.2.2.1 (Int.le_of_lt hpos))]
  exact ⟨Int.ediv_mul_le _ (Int.ne_of_gt hpos), Int.lt_ediv_add_one_mul_self _ hpos,
    Int.ediv_mul_le _ (Int.ne_of_gt hpos), Int.lt_ediv_add_one_mul_self _ hpos, hp.2.1, hp.2.2.2⟩

/-- A pixel of the extent lies in the rectangle of its tile. -/
lemma mem_rect_indexAt (hp : p ∈ Rect.ofSize t.size) (hwidth : t.size.width ≤ maxExtent) :
    p ∈ t.rect (t.cellOf (t.indexAt p)) := by
  have edges := Rect.mem_ofSize.1 hp
  have column : (t.cellAt p).column < t.columns := div_edge_lt_tilesAlong edges.1 edges.2.1 hwidth
  rw [indexAt, cellOf_row_mul_columns_add column]
  exact mem_rect_cellAt hp

/-- Seen from the origin of its tile, a pixel stands at its remainders by the edge. -/
lemma offset_origin_eq_withinTile (hp : p ∈ t.rect cell) :
    p.offset (-(t.rect cell).x) (-(t.rect cell).y) = t.withinTile p := by
  obtain ⟨left, right, top, bottom, -, -⟩ := mem_rect.1 hp
  have horizontal : p.x % t.edge = p.x - cell.column * t.edge := by
    rw [Int.emod_def, div_edge_eq left right, Int.mul_comm]
  have vertical : p.y % t.edge = p.y - cell.row * t.edge := by
    rw [Int.emod_def, div_edge_eq top bottom, Int.mul_comm]
  simp only [Point.offset, withinTile, rect, Rect.ofEdges, horizontal, vertical, Point.mk.injEq]
  omega

/-- The picture at a pixel is read from the bitmap of any tile the pixel lies in. -/
lemma picture_of_mem_rect {content : Nat → Bitmap} {index : Nat}
    (hp : p ∈ t.rect (t.cellOf index)) :
    t.picture content p = (content index).at?
      (p.offset (-(t.rect (t.cellOf index)).x) (-(t.rect (t.cellOf index)).y)) := by
  rw [picture, indexAt_eq_of_mem_rect hp, offset_origin_eq_withinTile hp]

/-! ## The tiles that meet an area -/

lemma mem_ofSize_of_mem_rect (hp : p ∈ t.rect cell) : p ∈ Rect.ofSize t.size := by
  obtain ⟨left, -, top, -, width, height⟩ := mem_rect.1 hp
  have column : (0 : Int) ≤ cell.column * t.edge :=
    Int.mul_nonneg (Int.natCast_nonneg _) (Int.natCast_nonneg _)
  have row : (0 : Int) ≤ cell.row * t.edge :=
    Int.mul_nonneg (Int.natCast_nonneg _) (Int.natCast_nonneg _)
  exact Rect.mem_ofSize.2 ⟨Int.le_trans column left, width, Int.le_trans row top, height⟩

/-- A column or row that meets an interval has a pixel of the interval in it. -/
lemma exists_of_mem_span {low high : Int} {k : Nat} (nonneg : 0 ≤ low) (some : low < high)
    (mem : k ∈ t.span low high) : ∃ x, low ≤ x ∧ x < high ∧ (x / t.edge).toNat = k := by
  have pos := t.edge_pos_int
  have ordered : low / t.edge ≤ (high - 1) / t.edge := Int.ediv_le_ediv pos (by omega)
  have first : 0 ≤ low / t.edge := Int.ediv_nonneg nonneg (Int.le_of_lt pos)
  rw [span, List.mem_range'_1] at mem
  have after : (k : Int) * t.edge ≤ high - 1 := (Int.le_ediv_iff_mul_le pos).1 (by omega)
  have before : low < (k + 1) * t.edge := (Int.ediv_lt_iff_lt_mul pos).1 (by omega)
  have next : (k + 1 : Int) * t.edge = k * t.edge + t.edge := by rw [Int.add_mul, Int.one_mul]
  have quotient : max low (k * t.edge) / t.edge = k := div_edge_eq (Int.le_max_right _ _) (by omega)
  refine ⟨max low (k * t.edge), Int.le_max_left _ _, by omega, ?_⟩
  rw [quotient, Int.toNat_natCast]

/-- **The tiles that meet an area are those of its pixels.** -/
theorem mem_overlapping_iff {area : Rect .device} {index : Nat} :
    index ∈ t.overlapping area ↔ ∃ p ∈ area, p ∈ Rect.ofSize t.size ∧ t.indexAt p = index := by
  refine ⟨fun mem => ?_, ?_⟩
  · simp only [overlapping] at mem
    split_ifs at mem with empty
    · exact absurd mem List.not_mem_nil
    · obtain ⟨p, clipped⟩ := Rect.isEmpty_eq_false_iff.1 (Bool.eq_false_iff.2 empty)
      generalize narrowed : area.intersect (.ofSize t.size) = clip at mem clipped
      have inside (q : Point .device) (hq : q ∈ clip) : q ∈ area ∧ q ∈ Rect.ofSize t.size := by
        rwa [← narrowed, Rect.mem_intersect] at hq
      obtain ⟨left, right, top, bottom⟩ := Rect.mem_def.1 clipped
      have wide : clip.x < clip.right := Int.lt_of_le_of_lt left right
      have high : clip.y < clip.bottom := Int.lt_of_le_of_lt top bottom
      have corner := Rect.mem_ofSize.1 (inside ⟨clip.x, clip.y⟩
        ⟨Int.le_refl _, wide, Int.le_refl _, high⟩).2
      obtain ⟨row, inRows, mem⟩ := List.mem_flatMap.1 mem
      obtain ⟨column, inColumns, rfl⟩ := List.mem_map.1 mem
      obtain ⟨x, after, before, rfl⟩ := exists_of_mem_span corner.1 wide inColumns
      obtain ⟨y, below, above, rfl⟩ := exists_of_mem_span corner.2.2.1 high inRows
      obtain ⟨inArea, inExtent⟩ := inside ⟨x, y⟩ ⟨after, before, below, above⟩
      exact ⟨_, inArea, inExtent, rfl⟩
  · rintro ⟨p, inArea, inExtent, rfl⟩
    exact indexAt_mem_overlapping inArea inExtent

/-- Where all tiles are counted, they are the tiles whose rectangle meets the area. -/
lemma mem_overlapping_iff_intersects {area : Rect .device} {index : Nat}
    (hwidth : t.size.width ≤ maxExtent) (hheight : t.size.height ≤ maxExtent) :
    index ∈ t.overlapping area ↔
      index < t.count ∧ (t.rect (t.cellOf index)).intersects area = true := by
  rw [mem_overlapping_iff, Rect.intersects_iff]
  constructor
  · rintro ⟨p, inArea, inExtent, rfl⟩
    exact ⟨indexAt_lt_count inExtent hwidth hheight, p, mem_rect_indexAt inExtent hwidth, inArea⟩
  · rintro ⟨-, p, inTile, inArea⟩
    exact ⟨p, inArea, mem_ofSize_of_mem_rect inTile, indexAt_eq_of_mem_rect inTile⟩

end Tiling

end TiledView
