import Mathlib.Data.Int.ConditionallyCompleteOrder
import Mathlib.Data.Int.Range
import TiledView.Proofs.Cache.Reachable
import TiledView.Proofs.Scale.Exact
import TiledView.Proofs.Tiling.Listing

/-!
# The bounds of the tiles pave the document

A tile rounds each of its four pixel edges to a twip by itself, and it knows nothing of its
neighbours.  But along an axis, a tile ends at the pixel where the next one begins, and the last one
ends with the extent.  So the edges of all tiles are the *cuts* of two axes (`Tiling.cut`,
`Tiling.rect_eq_cuts`).  Rounded cuts that are still in order make intervals that follow upon each
other (`exists_between`, `eq_of_between`).  Some of them may be empty, where pixels are finer than
twips.

`PartCache.Paves` is what follows for tiles.  Of the arithmetic nothing is assumed but that rounding
keeps the order of edges and leaves zero where it is (`PartCache.Reachable.paves`).  Exact arithmetic
does so at every positive scale (`PartCache.Reachable.paves_exact`).
-/

namespace TiledView

/-! ## Intervals that follow upon each other -/

section Between

variable {f : Nat → Int} {x : Int} {k k' n : Nat}

/-- A place from the first cut up to the last one lies between two that follow upon each other. -/
lemma exists_between (first : f 0 ≤ x) (last : x < f n) : ∃ k < n, f k ≤ x ∧ x < f (k + 1) := by
  induction n with
  | zero => omega
  | succ n ih =>
      rcases lt_or_ge x (f n) with before | after
      · obtain ⟨k, lt, between⟩ := ih before
        exact ⟨k, Nat.lt_succ_of_lt lt, between⟩
      · exact ⟨n, Nat.lt_succ_self n, after, last⟩

/-- And between no other two. -/
lemma eq_of_between (mono : Monotone f) (h : f k ≤ x ∧ x < f (k + 1))
    (h' : f k' ≤ x ∧ x < f (k' + 1)) : k = k' := by
  have le : k < k' + 1 := mono.reflect_lt (Int.lt_of_le_of_lt h.1 h'.2)
  have ge : k' < k + 1 := mono.reflect_lt (Int.lt_of_le_of_lt h'.1 h.2)
  omega

end Between

/-! ## Where tiles meet -/

namespace Tiling

variable {t : Tiling} {cell : Cell} {extent : Int} {k : Nat}

/-- Where the tiles along an axis meet: tile `k` reaches from cut `k` up to cut `k + 1`. -/
def cut (t : Tiling) (extent : Int) (k : Nat) : Int := min (k * t.edge) extent

lemma cut_zero (nonneg : 0 ≤ extent) : t.cut extent 0 = 0 := by
  rw [cut, Int.natCast_zero, Int.zero_mul, Int.min_eq_left nonneg]

/-- The last cut is the far edge, even if that is not a multiple of the edge of a tile. -/
lemma cut_tilesAlong (nonneg : 0 ≤ extent) (fits : extent ≤ maxExtent) :
    t.cut extent (t.tilesAlong extent) = extent := by
  have reach := t.min_le_tilesAlong_mul extent
  rw [cut, ← Int.natCast_mul]
  omega

lemma monotone_cut (t : Tiling) (extent : Int) : Monotone (t.cut extent) := by
  intro k k' le
  have scaled : k * t.edge ≤ k' * t.edge := Nat.mul_le_mul_right _ le
  simp only [cut, ← Int.natCast_mul]
  omega

lemma cut_nonneg (nonneg : 0 ≤ extent) (k : Nat) : 0 ≤ t.cut extent k := by
  rw [← cut_zero nonneg]
  exact t.monotone_cut extent (Nat.zero_le k)

lemma cut_le (t : Tiling) (extent : Int) (k : Nat) : t.cut extent k ≤ extent := Int.min_le_right _ _

/-- A tile that is counted begins within the extent, so that its near edge is not clipped. -/
lemma cut_of_lt (h : k < t.tilesAlong extent) : t.cut extent k = k * t.edge := by
  have inside := lt_tilesAlong_iff.1 h
  rw [cut, ← Int.natCast_mul]
  omega

/-- The pixel edges of a tile are cuts. -/
lemma rect_eq_cuts (h : t.Holds cell) :
    t.rect cell = .ofEdges (t.cut t.size.width cell.column) (t.cut t.size.height cell.row)
      (t.cut t.size.width (cell.column + 1)) (t.cut t.size.height (cell.row + 1)) := by
  rw [cut_of_lt h.1, cut_of_lt h.2]
  simp only [rect, cut, Int.natCast_add, Int.natCast_one, Int.add_mul, Int.one_mul]

end Tiling

namespace PartCache

variable {α : Type} [Arithmetic α] {c : PartCache α}

/-- The far corner of the pixels, rounded as the edges of tiles are. -/
def roundedSize (c : PartCache α) : Size .twips :=
  ⟨c.scale.nearestTwip c.tiling.size.width, c.scale.nearestTwip c.tiling.size.height⟩

/-- The bounds of the tiles cover every twip up to the rounded far corner, and none of them twice. -/
structure Paves (c : PartCache α) : Prop where
  /-- Neighbours in a row share an edge, from end to end. -/
  beside : ∀ column row, c.tiling.Holds ⟨column + 1, row⟩ →
    ∃ left right, c.tileIn? ⟨column, row⟩ = some left ∧ c.tileIn? ⟨column + 1, row⟩ = some right ∧
      left.bounds.right = right.bounds.x ∧ left.bounds.y = right.bounds.y ∧
      left.bounds.bottom = right.bounds.bottom
  /-- And so do neighbours in a column. -/
  below : ∀ column row, c.tiling.Holds ⟨column, row + 1⟩ →
    ∃ upper lower, c.tileIn? ⟨column, row⟩ = some upper ∧
      c.tileIn? ⟨column, row + 1⟩ = some lower ∧
      upper.bounds.bottom = lower.bounds.y ∧ upper.bounds.x = lower.bounds.x ∧
      upper.bounds.right = lower.bounds.right
  apart : ∀ (index index' : Nat) (tile tile' : Tile), index ≠ index' → c.tiles[index]? = some tile →
    c.tiles[index']? = some tile' → tile.bounds.intersects tile'.bounds = false
  covered : ∀ p ∈ Rect.ofSize c.roundedSize,
    ∃! index : Nat, ∃ tile : Tile, c.tiles[index]? = some tile ∧ p ∈ tile.bounds
  /-- Nothing else is covered. -/
  inside : ∀ (index : Nat) (tile : Tile), c.tiles[index]? = some tile →
    ∀ p ∈ tile.bounds, p ∈ Rect.ofSize c.roundedSize

/-! ## Cuts in the document -/

/-- Where columns meet in the document. -/
def columnCut (c : PartCache α) (column : Nat) : Int :=
  c.scale.nearestTwip (c.tiling.cut c.tiling.size.width column)

/-- Where rows meet in the document. -/
def rowCut (c : PartCache α) (row : Nat) : Int :=
  c.scale.nearestTwip (c.tiling.cut c.tiling.size.height row)

/-- What rounding makes of the cuts: they stay in order, from the origin up to the far corner. -/
structure CutsInOrder (c : PartCache α) : Prop where
  columns : Monotone c.columnCut
  rows : Monotone c.rowCut
  left : c.columnCut 0 = 0
  top : c.rowCut 0 = 0
  right : c.columnCut c.tiling.columns = c.roundedSize.width
  bottom : c.rowCut c.tiling.rows = c.roundedSize.height

section Built

variable {part tileEdge generation index : Nat} {scale : Scale α} {documentSize : Size .twips}
  {cell : Cell} {tile : Tile}

/-- No extent in pixels is negative, whatever the document's size is. -/
lemma size_nonneg_of_outline
    (built : c.outline = build part scale documentSize tileEdge generation) :
    0 ≤ c.tiling.size.width ∧ 0 ≤ c.tiling.size.height := by
  have same : c.tiling = Tiling.ofSize (scale.deviceSize documentSize) tileEdge :=
    congrArg PartCache.tiling built
  rw [same]
  exact ⟨Int.le_max_right _ _, Int.le_max_right _ _⟩

lemma CutsInOrder.of_monotoneOn
    (built : c.outline = build part scale documentSize tileEdge generation)
    (width : c.tiling.size.width ≤ Tiling.maxExtent)
    (height : c.tiling.size.height ≤ Tiling.maxExtent) (zero : c.scale.nearestTwip 0 = 0)
    (mono : MonotoneOn c.scale.nearestTwip
      (Set.Icc 0 (max c.tiling.size.width c.tiling.size.height))) : c.CutsInOrder := by
  obtain ⟨nonnegWidth, nonnegHeight⟩ := size_nonneg_of_outline built
  have ordered {extent : Int} (nonneg : 0 ≤ extent)
      (le : extent ≤ max c.tiling.size.width c.tiling.size.height) :
      Monotone fun k => c.scale.nearestTwip (c.tiling.cut extent k) := fun k k' before =>
    mono ⟨Tiling.cut_nonneg nonneg k, (c.tiling.cut_le extent k).trans le⟩
      ⟨Tiling.cut_nonneg nonneg k', (c.tiling.cut_le extent k').trans le⟩
      (c.tiling.monotone_cut extent before)
  exact {
    columns := ordered nonnegWidth (Int.le_max_left _ _)
    rows := ordered nonnegHeight (Int.le_max_right _ _)
    left := by rw [columnCut, Tiling.cut_zero nonnegWidth, zero]
    top := by rw [rowCut, Tiling.cut_zero nonnegHeight, zero]
    right := congrArg c.scale.nearestTwip (Tiling.cut_tilesAlong nonnegWidth width)
    bottom := congrArg c.scale.nearestTwip (Tiling.cut_tilesAlong nonnegHeight height) }

/-- Every tile has its cell. -/
lemma holds_of_found (built : c.outline = build part scale documentSize tileEdge generation)
    (found : c.tiles[index]? = some tile) : c.tiling.Holds (c.tiling.cellOf index) := by
  refine Tiling.holds_cellOf ?_
  rw [← size_tiles_of_outline built]
  exact (Array.getElem?_eq_some_iff.1 found).1

/-- The bounds of a tile are between the cuts of its column and those of its row. -/
lemma bounds_eq_cuts (built : c.outline = build part scale documentSize tileEdge generation)
    (found : c.tiles[index]? = some tile) :
    tile.bounds = .ofEdges (c.columnCut (c.tiling.cellOf index).column)
      (c.rowCut (c.tiling.cellOf index).row) (c.columnCut ((c.tiling.cellOf index).column + 1))
      (c.rowCut ((c.tiling.cellOf index).row + 1)) := by
  rw [bounds_of_outline built found, pixels_of_outline built found,
    Tiling.rect_eq_cuts (holds_of_found built found),
    Rect.right_ofEdges (c.tiling.monotone_cut _ (Nat.le_succ _)),
    Rect.bottom_ofEdges (c.tiling.monotone_cut _ (Nat.le_succ _))]
  rfl

/-- The twips of a tile lie between two cuts along each axis. -/
lemma mem_bounds_iff (built : c.outline = build part scale documentSize tileEdge generation)
    (found : c.tiles[index]? = some tile) {p : Point .twips} :
    p ∈ tile.bounds ↔
      (c.columnCut (c.tiling.cellOf index).column ≤ p.x ∧
        p.x < c.columnCut ((c.tiling.cellOf index).column + 1)) ∧
      (c.rowCut (c.tiling.cellOf index).row ≤ p.y ∧
        p.y < c.rowCut ((c.tiling.cellOf index).row + 1)) := by
  rw [bounds_eq_cuts built found, Rect.mem_ofEdges, and_assoc]

/-- And every cell has its tile. -/
lemma exists_tile (built : c.outline = build part scale documentSize tileEdge generation)
    (holds : c.tiling.Holds cell) :
    ∃ tile, c.tiles[cell.row * c.tiling.columns + cell.column]? = some tile ∧
      tile.bounds = .ofEdges (c.columnCut cell.column) (c.rowCut cell.row)
        (c.columnCut (cell.column + 1)) (c.rowCut (cell.row + 1)) := by
  have inside : cell.row * c.tiling.columns + cell.column < c.tiles.size :=
    size_tiles_of_outline built ▸ Tiling.row_mul_columns_add_lt holds
  have found := Array.getElem?_eq_getElem inside
  have bounds := bounds_eq_cuts built found
  rw [Tiling.cellOf_row_mul_columns_add holds.1] at bounds
  exact ⟨_, found, bounds⟩

/-- Where cuts are in order, the edges of a tile are cuts. -/
lemma exists_tileIn? (built : c.outline = build part scale documentSize tileEdge generation)
    (ordered : c.CutsInOrder) (holds : c.tiling.Holds cell) :
    ∃ tile, c.tileIn? cell = some tile ∧
      tile.bounds.x = c.columnCut cell.column ∧
      tile.bounds.right = c.columnCut (cell.column + 1) ∧
      tile.bounds.y = c.rowCut cell.row ∧ tile.bounds.bottom = c.rowCut (cell.row + 1) := by
  obtain ⟨tile, found, bounds⟩ := exists_tile built holds
  refine ⟨tile, ?_, ?_⟩
  · rw [tileIn?, Tiling.index_of_holds holds]
    exact found
  · rw [bounds, Rect.right_ofEdges (ordered.columns (Nat.le_succ _)),
      Rect.bottom_ofEdges (ordered.rows (Nat.le_succ _))]
    exact ⟨rfl, rfl, rfl, rfl⟩

/-- A twip lies in no two tiles. -/
lemma index_eq_of_mem_bounds
    (built : c.outline = build part scale documentSize tileEdge generation) (ordered : c.CutsInOrder)
    {index' : Nat} {tile' : Tile} (found : c.tiles[index]? = some tile)
    (found' : c.tiles[index']? = some tile') {p : Point .twips} (hp : p ∈ tile.bounds)
    (hp' : p ∈ tile'.bounds) : index = index' := by
  obtain ⟨column, row⟩ := (mem_bounds_iff built found).1 hp
  obtain ⟨column', row'⟩ := (mem_bounds_iff built found').1 hp'
  have columns : index % c.tiling.columns = index' % c.tiling.columns :=
    eq_of_between ordered.columns column column'
  have rows : index / c.tiling.columns = index' / c.tiling.columns :=
    eq_of_between ordered.rows row row'
  rw [← Nat.div_add_mod' index c.tiling.columns, ← Nat.div_add_mod' index' c.tiling.columns, rows,
    columns]

/-- Every twip up to the far corner lies in a tile. -/
lemma exists_mem_bounds (built : c.outline = build part scale documentSize tileEdge generation)
    (ordered : c.CutsInOrder) {p : Point .twips} (hp : p ∈ Rect.ofSize c.roundedSize) :
    ∃ (index : Nat) (tile : Tile), c.tiles[index]? = some tile ∧ p ∈ tile.bounds := by
  obtain ⟨left, right, top, bottom⟩ := Rect.mem_ofSize.1 hp
  obtain ⟨column, inColumns, x⟩ :=
    exists_between (ordered.left.trans_le left) (right.trans_eq ordered.right.symm)
  obtain ⟨row, inRows, y⟩ :=
    exists_between (ordered.top.trans_le top) (bottom.trans_eq ordered.bottom.symm)
  have holds : c.tiling.Holds ⟨column, row⟩ := ⟨inColumns, inRows⟩
  obtain ⟨tile, found, bounds⟩ := exists_tile built holds
  refine ⟨_, tile, found, ?_⟩
  rw [bounds, Rect.mem_ofEdges]
  exact ⟨x.1, x.2, y⟩

/-- **Cuts that stay in order make tiles that pave the document.** -/
lemma Paves.of_cutsInOrder
    (built : c.outline = build part scale documentSize tileEdge generation)
    (ordered : c.CutsInOrder) : c.Paves where
  beside := by
    intro column row holds
    have before : c.tiling.Holds ⟨column, row⟩ := ⟨Nat.lt_of_succ_lt holds.1, holds.2⟩
    obtain ⟨left, foundLeft, -, edge, top, bottom⟩ := exists_tileIn? built ordered before
    obtain ⟨right, foundRight, x, -, top', bottom'⟩ := exists_tileIn? built ordered holds
    exact ⟨left, right, foundLeft, foundRight, edge.trans x.symm, top.trans top'.symm,
      bottom.trans bottom'.symm⟩
  below := by
    intro column row holds
    have before : c.tiling.Holds ⟨column, row⟩ := ⟨holds.1, Nat.lt_of_succ_lt holds.2⟩
    obtain ⟨upper, foundUpper, left, right, -, edge⟩ := exists_tileIn? built ordered before
    obtain ⟨lower, foundLower, left', right', y, -⟩ := exists_tileIn? built ordered holds
    exact ⟨upper, lower, foundUpper, foundLower, edge.trans y.symm, left.trans left'.symm,
      right.trans right'.symm⟩
  apart := by
    intro index index' tile tile' ne found found'
    refine Bool.eq_false_iff.2 fun meets => ne ?_
    obtain ⟨p, hp, hp'⟩ := Rect.intersects_iff.1 meets
    exact index_eq_of_mem_bounds built ordered found found' hp hp'
  covered := by
    intro p hp
    obtain ⟨index, tile, found, mem⟩ := exists_mem_bounds built ordered hp
    refine ⟨index, ⟨tile, found, mem⟩, ?_⟩
    rintro index' ⟨tile', found', mem'⟩
    exact index_eq_of_mem_bounds built ordered found' found mem' mem
  inside := by
    intro index tile found p hp
    obtain ⟨⟨left, right⟩, top, bottom⟩ := (mem_bounds_iff built found).1 hp
    have holds := holds_of_found built found
    refine Rect.mem_ofSize.2 ⟨?_, ?_, ?_, ?_⟩
    · exact ordered.left.ge.trans ((ordered.columns (Nat.zero_le _)).trans left)
    · exact right.trans_le ((ordered.columns holds.1).trans_eq ordered.right)
    · exact ordered.top.ge.trans ((ordered.rows (Nat.zero_le _)).trans top)
    · exact bottom.trans_le ((ordered.rows holds.2).trans_eq ordered.bottom)

end Built

/-- **The bounds of the tiles pave the document**, if rounding an edge to a twip keeps the order of
edges and leaves zero where it is.  No call changes anything about that. -/
theorem Reachable.paves (reachable : c.Reachable)
    (width : c.tiling.size.width ≤ Tiling.maxExtent)
    (height : c.tiling.size.height ≤ Tiling.maxExtent) (zero : c.scale.nearestTwip 0 = 0)
    (mono : MonotoneOn c.scale.nearestTwip
      (Set.Icc 0 (max c.tiling.size.width c.tiling.size.height))) : c.Paves := by
  obtain ⟨part, scale, documentSize, tileEdge, generation, built⟩ := reachable.exists_outline
  exact .of_cutsInOrder built (.of_monotoneOn built width height zero mono)

/-- Pixels are finer than twips here: of three columns and three rows of one pixel each, the middle
ones only have a twip in them.  Eight tiles of nine have empty bounds, and the ninth is all of the
document. -/
theorem paves_fine :
    let c : PartCache Float := build 0 ⟨1.3, 30⟩ ⟨1, 1⟩ 1 0
    c.Reachable ∧ c.tiling.size = ⟨3, 3⟩ ∧ c.scale.nearestTwip 0 = 0 ∧
      MonotoneOn c.scale.nearestTwip (Set.Icc 0 3) ∧ c.roundedSize = ⟨1, 1⟩ ∧
      c.tiles.map (·.bounds) =
        #[⟨0, 0, 0, 0⟩, ⟨0, 0, 1, 0⟩, ⟨1, 0, 0, 0⟩, ⟨0, 0, 0, 1⟩, ⟨0, 0, 1, 1⟩, ⟨1, 0, 0, 1⟩,
          ⟨0, 1, 0, 0⟩, ⟨0, 1, 1, 0⟩, ⟨1, 1, 0, 0⟩] ∧ c.Paves := by
  intro c
  have reachable : c.Reachable := .build _ _ _ _ _
  have size : c.tiling.size = ⟨3, 3⟩ := by decide +kernel
  have zero : c.scale.nearestTwip 0 = 0 := by decide +kernel
  have ordered : ∀ edge, 0 ≤ edge → edge ≤ 3 → ∀ edge', edge ≤ edge' → edge' ≤ 3 →
      c.scale.nearestTwip edge ≤ c.scale.nearestTwip edge' := by decide +kernel
  have mono : MonotoneOn c.scale.nearestTwip (Set.Icc 0 3) :=
    fun edge mem edge' mem' le => ordered edge mem.1 mem.2 edge' le mem'.2
  refine ⟨reachable, size, zero, mono, by decide +kernel, by decide +kernel, ?_⟩
  refine reachable.paves ?_ ?_ zero ?_ <;> rw [size]
  · decide
  · decide
  · exact mono

/-- **Where edges are computed exactly, nothing is left to assume**: at any positive scale, the bounds
of the tiles pave the document. -/
theorem Reachable.paves_exact {c : PartCache Rat} (reachable : c.Reachable)
    (pos : 0 < c.scale.value) (width : c.tiling.size.width ≤ Tiling.maxExtent)
    (height : c.tiling.size.height ≤ Tiling.maxExtent) : c.Paves := by
  obtain ⟨part, scale, documentSize, tileEdge, generation, built⟩ := reachable.exists_outline
  have mono : Monotone c.scale.nearestTwip := fun _ _ le => Scale.nearestTwip_le_nearestTwip pos le
  refine .of_cutsInOrder built (.of_monotoneOn built width height ?_ (mono.monotoneOn _))
  exact c.scale.nearestTwip_zero

end PartCache

end TiledView
