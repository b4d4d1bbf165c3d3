import TiledView.Proofs.Cache.Classification

/-!
# Looking tiles up

A paint pass looks its tiles up by the indices that the tiling lists.  `PartCache.paint` goes past an
index that has no tile.  `PartCache.paint?` is the pass that insists on its tiles: there is no result
once one of them is missing, and otherwise the result is that of `PartCache.paint`
(`PartCache.paint?_eq`).

`PartCache.finds_all_iff` says when a pass never misses a tile, whatever its area: exactly if the
tiles that are counted reach to the far edges of the extent.  They do so for every extent of up to
`Tiling.maxExtent` pixels along each axis, and for no extent that has a tile beyond.
-/

namespace TiledView

variable {α σ : Type}

namespace TilePass

variable (renderer : Renderer σ) (window : PaintWindow) (deadline : Nat)

/-- One tile of a pass, which has to be there. -/
def visit? (pass : TilePass α σ) (index : Nat) : Option (TilePass α σ) :=
  pass.cache.tiles[index]?.map fun _ => pass.visit renderer window deadline index

lemma size_tiles_visit (pass : TilePass α σ) (index : Nat) :
    (pass.visit renderer window deadline index).cache.tiles.size = pass.cache.tiles.size :=
  PartCache.size_tiles_eq_of_outline (PartCache.outline_visited (visited pass index))

lemma foldlM_visit? (indices : List Nat) (pass : TilePass α σ) :
    indices.foldlM (visit? renderer window deadline) pass =
      if ∀ index ∈ indices, index < pass.cache.tiles.size then
        some (indices.foldl (visit renderer window deadline) pass)
      else
        none := by
  induction indices generalizing pass with
  | nil => rw [if_pos fun _ mem => absurd mem List.not_mem_nil]; rfl
  | cons index indices ih =>
      rw [List.foldlM_cons, List.foldl_cons]
      by_cases inside : index < pass.cache.tiles.size
      · have here : pass.visit? renderer window deadline index =
            some (pass.visit renderer window deadline index) := by
          rw [visit?, Array.getElem?_eq_getElem inside, Option.map_some]
        rw [here, Option.bind_eq_bind, Option.bind_some, ih, size_tiles_visit]
        refine if_congr ?_ rfl rfl
        rw [List.forall_mem_cons]
        exact (and_iff_right inside).symm
      · have missing : pass.visit? renderer window deadline index = none := by
          rw [visit?, Array.getElem?_eq_none (Nat.le_of_not_lt inside), Option.map_none]
        rw [missing, if_neg fun all => inside (all index List.mem_cons_self)]
        rfl

end TilePass

namespace PartCache

variable (surface : Bitmap) (window : PaintWindow) (dirty : Rect .device) (deadline : Nat)
  (renderer : Renderer σ) (s : σ)

/-- A paint pass that finds every tile which it looks up. -/
def paint? (c : PartCache α) : Option (TilePass α σ) :=
  (c.tiling.overlapping dirty.effective).foldlM (TilePass.visit? renderer window deadline)
    { cache := c, surface, ready := #[], pending := #[], renderer := s }

theorem paint?_eq (c : PartCache α) : c.paint? surface window dirty deadline renderer s =
    if ∀ index ∈ c.tiling.overlapping dirty.effective, index < c.tiles.size then
      some (c.paint surface window dirty deadline renderer s)
    else
      none :=
  TilePass.foldlM_visit? renderer window deadline _ _

/-- **No index is listed without its tile, and no pass misses one,** exactly if the tiles that are
counted reach to the far edges of the extent. -/
theorem finds_all_iff [Arithmetic α] (t : Tiling) :
    ((∀ area, ∀ index ∈ t.overlapping area, index < t.count) ↔ t.CountsAll) ∧
    (t.size.width ≤ Tiling.maxExtent → t.size.height ≤ Tiling.maxExtent → t.CountsAll) ∧
    ∀ c : PartCache α, c.Reachable → c.tiling = t →
      ((∀ dirty, c.paint? surface window dirty deadline renderer s =
          some (c.paint surface window dirty deadline renderer s)) ↔ t.CountsAll) := by
  refine ⟨Tiling.forall_lt_count_iff, Tiling.countsAll_of_le, ?_⟩
  rintro c reachable rfl
  obtain ⟨part, scale, documentSize, tileEdge, generation, built⟩ := reachable.exists_outline
  rw [← Tiling.forall_lt_count_iff, ← size_tiles_of_outline built]
  simp only [paint?_eq, ite_eq_left_iff, reduceCtorEq, imp_false, not_not]
  refine ⟨fun inside area index mem => ?_, fun inside dirty => inside dirty.effective⟩
  -- Every index that is listed at all is listed for the whole extent, which does not overflow.
  obtain ⟨p, -, inExtent, rfl⟩ := Tiling.mem_overlapping_iff.1 mem
  have whole := inside (.ofSize c.tiling.size)
  rw [Rect.effective_ofSize] at whole
  exact whole _ (Tiling.indexAt_mem_overlapping inExtent inExtent)

/-- Every pass over these three tiles finds the tiles that it looks up. -/
theorem finds_all_iff_threeFates :
    threeFates.Reachable ∧ threeFates.tiling.size.width ≤ Tiling.maxExtent ∧
      threeFates.tiling.size.height ≤ Tiling.maxExtent ∧ threeFates.tiling.CountsAll ∧
      ∀ dirty, threeFates.paint? (.blank 3 1) ⟨.zero, ⟨0, 0, 3, 1⟩⟩ dirty 1
        (Renderer.constant fun job => .drawn job.bitmap) () =
          some (threeFates.paint (.blank 3 1) ⟨.zero, ⟨0, 0, 3, 1⟩⟩ dirty 1
            (Renderer.constant fun job => .drawn job.bitmap) ()) := by
  have reachable : threeFates.Reachable :=
    .step (.build 0 .identity ⟨45, 15⟩ 1 1) (.paint _ _ _ _ _ _)
  have width : threeFates.tiling.size.width ≤ Tiling.maxExtent := by decide +kernel
  have height : threeFates.tiling.size.height ≤ Tiling.maxExtent := by decide +kernel
  obtain ⟨-, counted, complete⟩ := finds_all_iff (α := Float) (.blank 3 1) ⟨.zero, ⟨0, 0, 3, 1⟩⟩ 1
    (Renderer.constant fun job => .drawn job.bitmap) () threeFates.tiling
  exact ⟨reachable, width, height, counted width height,
    (complete threeFates reachable rfl).2 (counted width height)⟩

/-- An extent of `2 ^ 32` pixels has one tile of one pixel less than that counts, and yet the last
pixel has an index.  Of three columns of `2 ^ 31` pixels two are counted, and a pass over the first
pixel of the third one looks for a third tile of two. -/
theorem missing_tile_wide :
    let t := Tiling.ofSize ⟨4294967296, 1⟩ 1
    let c : PartCache Float := build 0 .identity ⟨96636764160, 15⟩ 2147483648 1
    t.count = 4294967295 ∧ t.overlapping ⟨4294967295, 0, 1, 1⟩ = [4294967295] ∧
      c.tiling.count = 2 ∧ c.tiling.overlapping ⟨4294967296, 0, 1, 1⟩ = [2] ∧
      (c.paint? (.blank 1 1) ⟨⟨4294967296, 0⟩, ⟨0, 0, 1, 1⟩⟩ ⟨4294967296, 0, 1, 1⟩ 0
        (Renderer.constant fun job => .drawn job.bitmap) ()).isNone = true := by
  decide +kernel

end PartCache

end TiledView
