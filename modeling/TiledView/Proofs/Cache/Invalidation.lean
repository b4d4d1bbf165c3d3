import TiledView.Proofs.Cache.Action
import TiledView.Proofs.Tiling.Listing

/-!
# How often an invalidation takes a tile out of use

`PartCache.Withdrawn times c c'` says that `c'` is `c` with each tile taken out of use as often as
`times` tells, and with nothing else changed; bitmaps in particular stay where they are.

* `PartCache.Withdrawn.invalidateAll` — every tile once.
* `PartCache.Withdrawn.invalidate` — every tile as often as it is listed for the area.

Whether a tile may be listed twice depends on the tiling.  Up to a width of `Tiling.maxExtent` pixels
none is (`Tiling.nodup_overlapping`), and a tile is taken out of use once exactly where none is
(`PartCache.Withdrawn.once_iff`).
-/

namespace TiledView

namespace PartCache

variable {α : Type} {c c' c'' : PartCache α} {times times' : Nat → Nat}

/-- `c'` is `c` with tile `index` taken out of use `times index` times. -/
structure Withdrawn (times : Nat → Nat) (c c' : PartCache α) : Prop where
  rest : c' = { c with tiles := c'.tiles, valid := c'.valid }
  tiles : ∀ index, c'.tiles[index]? =
    c.tiles[index]?.map fun tile : Tile => { tile with epoch := tile.epoch + times index }
  valid : ∀ index, c'.valid.contains index = (c.valid.contains index && times index == 0)

namespace Withdrawn

lemma refl (c : PartCache α) : Withdrawn (fun _ => 0) c c where
  rest := rfl
  tiles index := by simp
  valid index := by simp

lemma trans (h : Withdrawn times c c') (h' : Withdrawn times' c' c'') :
    Withdrawn (fun index => times index + times' index) c c'' where
  rest := by
    rw [h'.rest, h.rest]
  tiles index := by
    rw [h'.tiles, h.tiles, Option.map_map]
    simp only [Function.comp_def, Nat.add_assoc]
  valid index := by
    rw [h'.valid, h.valid, Bool.and_assoc]
    congr 1
    rw [Bool.eq_iff_iff]
    simp

lemma invalidateTile (c : PartCache α) (index : Nat) :
    Withdrawn (fun other => [index].count other) c (c.invalidateTile index) where
  rest := rfl
  tiles other := by
    rw [PartCache.invalidateTile, Array.getElem?_modify, List.count_singleton]
    by_cases same : index = other
    · rw [if_pos same, if_pos (by simpa using same)]
      rfl
    · simp [same]
  valid other := by
    rw [PartCache.invalidateTile, TileSet.contains_erase, List.count_singleton]
    by_cases same : index = other
    · simp [same]
    · simp [same, Ne.symm same]

lemma foldl_invalidateTile (touched : List Nat) (c : PartCache α) :
    Withdrawn (fun index => touched.count index) c (touched.foldl PartCache.invalidateTile c) := by
  induction touched generalizing c with
  | nil => exact .refl c
  | cons index touched ih =>
      rw [List.foldl_cons]
      have both := (invalidateTile c index).trans (ih (c.invalidateTile index))
      simpa only [← List.count_append, List.singleton_append] using both

/-- **An area takes each tile out of use as often as it lists it.** -/
theorem invalidate [Arithmetic α] (c : PartCache α) (area : Rect .twips) :
    Withdrawn (fun index => (c.intersecting area).count index) c (c.invalidate area).2 :=
  foldl_invalidateTile _ c

/-- **A whole part takes each tile out of use once.** -/
theorem invalidateAll (c : PartCache α) : Withdrawn (fun _ => 1) c c.invalidateAll where
  rest := rfl
  tiles index := by
    rw [PartCache.invalidateAll, Array.getElem?_map]
    rfl
  valid index := by
    rw [PartCache.invalidateAll, TileSet.contains_clear]
    simp

end Withdrawn

section Listed

variable [Arithmetic α]

/-- Only tiles that exist are listed. -/
lemma exists_tile_of_mem_intersecting {area : Rect .twips} {index : Nat}
    (mem : index ∈ c.intersecting area) : ∃ tile, c.tiles[index]? = some tile := by
  simp only [intersecting] at mem
  split_ifs at mem
  · exact absurd mem List.not_mem_nil
  · have overlaps := (List.mem_filter.1 mem).2
    cases found : c.tiles[index]? with
    | none =>
        rw [found] at overlaps
        cases overlaps
    | some tile => exact ⟨tile, rfl⟩

lemma nodup_intersecting (width : c.tiling.size.width ≤ Tiling.maxExtent) (area : Rect .twips) :
    (c.intersecting area).Nodup := by
  simp only [intersecting]
  split_ifs
  · exact .nil
  · exact (Tiling.nodup_overlapping width _).filter _

/-- **Every tile that is listed is taken out of use once** exactly if none is listed twice. -/
theorem Withdrawn.once_iff {area : Rect .twips}
    (h : Withdrawn (fun index => (c.intersecting area).count index) c c') :
    (∀ index ∈ c.intersecting area, ∀ tile, c.tiles[index]? = some tile →
      c'.tiles[index]? = some tile.raiseEpoch) ↔ (c.intersecting area).Nodup := by
  rw [List.nodup_iff_count_eq_one]
  refine forall₂_congr fun index mem => ?_
  obtain ⟨tile, found⟩ := exists_tile_of_mem_intersecting mem
  rw [h.tiles, found]
  constructor
  · intro raised
    have epochs := congrArg Tile.epoch (Option.some.inj (raised tile rfl))
    exact Nat.add_left_cancel epochs
  · rintro once _ ⟨⟩
    rw [Option.map_some, once]
    rfl

end Listed

end PartCache

end TiledView
