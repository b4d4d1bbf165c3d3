import TiledView.Proofs.Cache.Invalidation
import TiledView.Proofs.Cache.Reachable
import TiledView.Proofs.Plane.Wrapping
import TiledView.Proofs.Scale.Exact

/-!
# What a search for tiles finds

The bounds of a tile are its pixel edges, each rounded to a whole twip, so a tile may meet an area
of the document that does not touch its pixels.  `PartCache.intersecting` looks for tiles that have
pixels around the ones that the area touches, one on each side, and keeps those whose bounds meet the
area.  One pixel is enough, at every scale: no tile is missed (`Scale.intersects_search`), and the
search finds what a look at all the bounds would (`PartCache.intersecting_eq_filter`).

That is so as long as no edge wraps around, neither of the area nor of the search
(`Scale.Searchable`).  Where one does, nothing is found (`PartCache.intersecting_eq_nil`), be there
tiles to find or not.  `PartCache.Reachable.invalidatesExactly_iff` puts both together.

Scales and edges are rationals here, so the only errors are those of rounding and snapping.
-/

namespace TiledView

open Rounding (minInt64 maxInt64 saturate_mem saturate_le_saturate)

/-! ## The pixels that are searched -/

/-- Rounding outward does not invert two edges. -/
lemma snapFloor_le_snapCeil {q r : Rat} (le : q ≤ r) : snapFloor q ≤ snapCeil r := by
  refine saturate_le_saturate (Int.not_lt.1 fun inverted => ?_)
  have near := Rat.le_floor_iff.1 (Int.add_one_le_of_lt inverted)
  have far := Rat.ceil_le_iff.1 (le_refl (r - Arithmetic.snap).ceil)
  have snap : (Arithmetic.snap : Rat) = 1 / 1000000 := rfl
  push_cast at near
  linarith

namespace Scale

variable {s : Scale Rat} {area : Rect .twips}

lemma deviceEdge_le_deviceEdge (pos : 0 < s.value) {edge edge' : Int} (le : edge ≤ edge') :
    s.deviceEdge edge ≤ s.deviceEdge edge' := by
  rw [deviceEdge_eq, deviceEdge_eq]
  exact mul_le_mul_of_nonneg_right (mod_cast le) (pixelsPerTwip_pos pos).le

/-- Neither `area` nor the search for what it touches overflows. -/
structure Searchable (s : Scale Rat) (area : Rect .twips) : Prop where
  fits : area.overflows = false
  across : Rect.RoomFor (snapFloor (s.deviceEdge area.x)) (snapCeil (s.deviceEdge area.right))
  down : Rect.RoomFor (snapFloor (s.deviceEdge area.y)) (snapCeil (s.deviceEdge area.bottom))

/-- The pixels that an area touches, with a margin of one pixel on each side. -/
def around (s : Scale Rat) (area : Rect .twips) : Rect .device :=
  .ofEdges (snapFloor (s.deviceEdge area.x) - 1) (snapFloor (s.deviceEdge area.y) - 1)
    (snapCeil (s.deviceEdge area.right) + 1) (snapCeil (s.deviceEdge area.bottom) + 1)

lemma left_le_right (pos : 0 < s.value) (filled : area.isEmpty = false) :
    snapFloor (s.deviceEdge area.x) ≤ snapCeil (s.deviceEdge area.right) := by
  obtain ⟨width, -⟩ := Rect.isEmpty_eq_false.1 filled
  refine snapFloor_le_snapCeil (deviceEdge_le_deviceEdge pos ?_)
  exact Int.le_add_of_nonneg_right width.le

lemma top_le_bottom (pos : 0 < s.value) (filled : area.isEmpty = false) :
    snapFloor (s.deviceEdge area.y) ≤ snapCeil (s.deviceEdge area.bottom) := by
  obtain ⟨-, height⟩ := Rect.isEmpty_eq_false.1 filled
  refine snapFloor_le_snapCeil (deviceEdge_le_deviceEdge pos ?_)
  exact Int.le_add_of_nonneg_right height.le

lemma toDevice_eq (words : area.InWords) (filled : area.isEmpty = false)
    (fits : area.overflows = false) : s.toDevice area =
      .wrappedOfEdges (snapFloor (s.deviceEdge area.x)) (snapFloor (s.deviceEdge area.y))
        (snapCeil (s.deviceEdge area.right)) (snapCeil (s.deviceEdge area.bottom)) := by
  obtain ⟨width, height⟩ := Rect.isEmpty_eq_false.1 filled
  obtain ⟨⟨right, -⟩, bottom, -⟩ := Rect.far_eq_of_fits words width height fits
  rw [toDevice, if_neg (Bool.eq_false_iff.1 filled), right, bottom]

/-- What is searched for an area, if nothing overflows. -/
lemma search_eq_around (pos : 0 < s.value) (words : area.InWords) (filled : area.isEmpty = false)
    (searchable : s.Searchable area) :
    (s.toDevice area).wrappedMargin.effective = s.around area := by
  obtain ⟨fits, across, down⟩ := searchable
  have leftRight := left_le_right pos filled
  have topBottom := top_le_bottom pos filled
  rw [toDevice_eq words filled fits, Rect.wrappedMargin_eq across down leftRight topBottom]
  refine Rect.effective_of_fits (Rect.overflows_of_le ?_ ?_)
  · rw [Rect.right_ofEdges (by omega)]
    exact across.2.1
  · rw [Rect.bottom_ofEdges (by omega)]
    exact down.2.1

/-- And if something does, no pixels of a tile are searched. -/
lemma not_mem_search (pos : 0 < s.value) (words : area.InWords) (filled : area.isEmpty = false)
    (fits : area.overflows = false) (unsearchable : ¬ s.Searchable area) {p : Point .device}
    (px : 0 ≤ p.x) (py : 0 ≤ p.y) : p ∉ (s.toDevice area).wrappedMargin.effective := by
  rw [toDevice_eq words filled fits]
  exact Rect.not_mem_effective_wrappedMargin (left_le_right pos filled) (top_le_bottom pos filled)
    (saturate_mem _).1 (saturate_mem _).2 (saturate_mem _).1 (saturate_mem _).2
    (fun room => unsearchable ⟨fits, room.1, room.2⟩) px py

/-- A tile whose bounds meet an area has pixels within one pixel of those that the area touches. -/
lemma intersects_search (pos : 0 < s.value) (words : area.InWords) (fits : area.overflows = false)
    {pixels : Rect .device} (nonempty : pixels.isEmpty = false) (inWords : pixels.InWords)
    (inside : pixels.overflows = false)
    (meets : (Rect.ofEdges (s.nearestTwip pixels.x) (s.nearestTwip pixels.y)
      (s.nearestTwip pixels.right) (s.nearestTwip pixels.bottom)).intersects area = true) :
    pixels.intersects (s.around area) = true := by
  obtain ⟨p, inBounds, inArea⟩ := Rect.intersects_iff.1 meets
  obtain ⟨left, right, top, bottom⟩ := Rect.mem_ofEdges.1 inBounds
  obtain ⟨areaLeft, areaRight, areaTop, areaBottom⟩ := Rect.mem_def.1 inArea
  have filled := Rect.isEmpty_eq_false.1 (Rect.isEmpty_eq_false_iff.2 ⟨p, inArea⟩)
  have far := Rect.far_eq_of_fits words filled.1 filled.2 fits
  obtain ⟨width, height⟩ := Rect.isEmpty_eq_false.1 nonempty
  have farther := Rect.far_eq_of_fits inWords width height inside
  have beforeRight := le_snapCeil_of_nearestTwip_lt pos (Int.lt_of_le_of_lt left areaRight)
    inWords.left.2 far.1.2
  have beforeBottom := le_snapCeil_of_nearestTwip_lt pos (Int.lt_of_le_of_lt top areaBottom)
    inWords.top.2 far.2.2
  have afterLeft := snapFloor_le_of_lt_nearestTwip pos (Int.lt_of_le_of_lt areaLeft right)
    (inWords.left.1.trans (Int.le_add_of_nonneg_right width.le)) words.left.1
  have afterTop := snapFloor_le_of_lt_nearestTwip pos (Int.lt_of_le_of_lt areaTop bottom)
    (inWords.top.1.trans (Int.le_add_of_nonneg_right height.le)) words.top.1
  have leftRight := left_le_right pos (Rect.isEmpty_eq_false_iff.2 ⟨p, inArea⟩)
  have topBottom := top_le_bottom pos (Rect.isEmpty_eq_false_iff.2 ⟨p, inArea⟩)
  refine Rect.intersects_iff.2 ⟨⟨max pixels.x (snapFloor (s.deviceEdge area.x) - 1),
    max pixels.y (snapFloor (s.deviceEdge area.y) - 1)⟩, ?_, Rect.mem_ofEdges.2 ?_⟩
  · rw [Rect.right] at afterLeft
    rw [Rect.bottom] at afterTop
    rw [Rect.mem_def, Rect.right, Rect.bottom]
    dsimp only
    omega
  · dsimp only
    omega

end Scale

namespace Tiling

/-- The edges of a tile are words, like those of its extent. -/
lemma inWords_rect {t : Tiling} {cell : Cell} (hwidth : t.size.width ≤ maxExtent)
    (hheight : t.size.height ≤ maxExtent) (filled : (t.rect cell).isEmpty = false) :
    (t.rect cell).InWords ∧ (t.rect cell).overflows = false := by
  obtain ⟨p, mem⟩ := Rect.isEmpty_eq_false_iff.1 filled
  obtain ⟨left, right, top, bottom, width, height⟩ := mem_rect.1 mem
  have column : (0 : Int) ≤ cell.column * t.edge := by positivity
  have row : (0 : Int) ≤ cell.row * t.edge := by positivity
  simp only [maxExtent] at hwidth hheight
  refine ⟨⟨?_, ?_, ?_, ?_⟩, Rect.overflows_of_le ?_ ?_⟩ <;>
    simp only [rect, Rect.ofEdges, Rect.right, Rect.bottom, minInt64, maxInt64] <;> omega

end Tiling

namespace PartCache

/-- Whether there is a tile `index` and its bounds meet `area`. -/
def touches {α : Type} (c : PartCache α) (area : Rect .twips) (index : Nat) : Bool :=
  c.tiles[index]?.any fun tile => tile.bounds.intersects area

section Search

variable {c : PartCache Rat} {part tileEdge generation : Nat} {scale : Scale Rat}
  {documentSize : Size .twips} {area : Rect .twips}
  (built : c.outline = build part scale documentSize tileEdge generation)
  (pos : 0 < c.scale.value) (hwidth : c.tiling.size.width ≤ Tiling.maxExtent)
  (hheight : c.tiling.size.height ≤ Tiling.maxExtent) (words : area.InWords)

lemma touches_eq_false_of_isEmpty (empty : area.isEmpty = true) (index : Nat) :
    c.touches area index = false := by
  refine Bool.eq_false_iff.2 fun touched => ?_
  obtain ⟨tile, -, meets⟩ := (Option.any_eq_true _ _).1 touched
  obtain ⟨p, -, inArea⟩ := Rect.intersects_iff.1 meets
  exact Rect.not_mem_of_isEmpty empty inArea

include pos words

/-- **A search finds nothing if something overflows.** -/
theorem intersecting_eq_nil (unsearchable : ¬ c.scale.Searchable area) :
    c.intersecting area = [] := by
  simp only [intersecting]
  split_ifs with empty
  · rfl
  · refine List.filter_eq_nil_iff.2 fun index mem touched => ?_
    obtain ⟨tile, found, meets⟩ := (Option.any_eq_true _ _).1 touched
    obtain ⟨q, -, inArea⟩ := Rect.intersects_iff.1 meets
    have fits := (Rect.mem_effective.1 inArea).1
    obtain ⟨p, searched, inExtent, -⟩ := Tiling.mem_overlapping_iff.1 mem
    obtain ⟨px, -, py, -⟩ := Rect.mem_ofSize.1 inExtent
    exact Scale.not_mem_search pos words (Bool.eq_false_iff.2 empty) fits unsearchable px py searched

include built hwidth hheight

/-- **Otherwise it finds the tiles that a look at each of them would find.** -/
theorem intersecting_eq_filter (searchable : c.scale.Searchable area) :
    c.intersecting area = (List.range c.tiles.size).filter (c.touches area) := by
  simp only [intersecting]
  split_ifs with empty
  · refine (List.filter_eq_nil_iff.2 fun index _ => ?_).symm
    exact Bool.eq_false_iff.1 (touches_eq_false_of_isEmpty empty index)
  · rw [Scale.search_eq_around pos words (Bool.eq_false_iff.2 empty) searchable,
      Rect.effective_of_fits searchable.fits, Tiling.overlapping_eq_filter hwidth hheight,
      List.filter_filter, ← size_tiles_of_outline built]
    refine List.filter_congr fun index mem => ?_
    refine Bool.and_eq_left_iff_imp.2 fun touched => ?_
    obtain ⟨tile, found, meets⟩ := (Option.any_eq_true _ _).1 touched
    have inside : index < c.tiling.count := size_tiles_of_outline built ▸ List.mem_range.1 mem
    have filled := Tiling.isEmpty_rect_of_holds (Tiling.holds_cellOf inside)
    obtain ⟨inWords, fits⟩ := Tiling.inWords_rect hwidth hheight filled
    rw [← pixels_of_outline built found] at filled inWords fits ⊢
    exact Scale.intersects_search pos words searchable.fits filled inWords fits
      (bounds_of_outline built found ▸ meets)

end Search

/-! ## Invalidation -/

/-- An invalidation of `area` misses no tile and hits no other. -/
structure InvalidatesExactly (c : PartCache Rat) (area : Rect .twips) : Prop where
  listed : c.intersecting area = (List.range c.tiles.size).filter (c.touches area)
  ordered : (c.intersecting area).Pairwise (· < ·)
  counted : (c.invalidate area).1 = (List.range c.tiles.size).countP (c.touches area)
  withdrawn : Withdrawn (fun index => if c.touches area index then 1 else 0) c
    (c.invalidate area).2

section Invalidation

variable {c : PartCache Rat} {area : Rect .twips}

lemma lt_size_of_touches {index : Nat} (touched : c.touches area index = true) :
    index < c.tiles.size := by
  obtain ⟨tile, found, -⟩ := (Option.any_eq_true _ _).1 touched
  exact (Array.getElem?_eq_some_iff.1 found).1

/-- All of it follows from what is listed. -/
lemma InvalidatesExactly.of_listed
    (listed : c.intersecting area = (List.range c.tiles.size).filter (c.touches area)) :
    c.InvalidatesExactly area := by
  have ordered : (c.intersecting area).Pairwise (· < ·) := listed ▸ List.pairwise_lt_range.filter _
  refine ⟨listed, ordered, ?_, ?_⟩
  · rw [List.countP_eq_length_filter, ← listed]
    rfl
  · have once : (fun index => if c.touches area index then 1 else 0) =
        fun index => (c.intersecting area).count index := by
      refine funext fun index => ?_
      have mem : index ∈ c.intersecting area ↔ c.touches area index = true := by
        rw [listed, List.mem_filter, List.mem_range]
        exact and_iff_right_of_imp lt_size_of_touches
      rw [List.Nodup.count (ordered.imp Nat.ne_of_lt)]
      exact if_congr mem.symm rfl rfl
    rw [once]
    exact .invalidate c area

end Invalidation

end PartCache

end TiledView
