import TiledView.Proofs.Cache.Invalidation
import TiledView.Proofs.Cache.Reachable

/-!
# How a pass sorts the tiles

A pass over an area lists each tile with pixels in the area once: as ready if it is valid when the
pass is over, as pending otherwise.  It has a tile drawn once at most, and only a listed one that
was neither valid nor lent.  `PartCache.Classifies` is all of this together, with what stays as it
was.  It holds of every sweep (`PartCache.classifies_of_outline`), whatever the renderer answers and
however the clock runs, and of a pass over any area in words as far as this area amounts to anything
(`PartCache.Reachable.classifies_paint_iff`).

A visit of one tile has seven outcomes, but for the lists and the cache they come down to one shape
(`TilePass.Sorts`).  `TilePass.Sorted worked` then says how far the pass has come when the tiles in
`worked` have been visited, and the induction is on the list of tiles that are still to be visited.
-/

namespace TiledView

variable {α σ : Type}

/-! ## Noting jobs -/

/-- The renderer, with a list of the jobs that it was given beside its state, in order. -/
def Renderer.noting (r : Renderer σ) : Renderer (σ × List DrawJob) where
  now s := ((r.now s.1).1, (r.now s.1).2, s.2)
  draw job deadline s :=
    ((r.draw job deadline s.1).1, (r.draw job deadline s.1).2, s.2 ++ [job])

lemma Renderer.noting_maps (r : Renderer σ) : r.noting.Maps Prod.fst r :=
  ⟨fun _ => rfl, fun _ _ _ => rfl⟩

/-! ## What a job asks for -/

/-- The bitmap that a tile lends has the size of the tile. -/
lemma Tile.size_toLend {tile : Tile} (width : 0 ≤ tile.pixels.width)
    (height : 0 ≤ tile.pixels.height) : tile.toLend.size = tile.pixels.size := by
  have exact_size (bitmap : Bitmap) (fits : bitmap.width = tile.pixels.width.toNat ∧
      bitmap.height = tile.pixels.height.toNat) : bitmap.size = tile.pixels.size := by
    simp only [Bitmap.size, fits, Rect.size, Int.toNat_of_nonneg width, Int.toNat_of_nonneg height]
  simp only [toLend]
  split
  · split_ifs with fits
    · exact exact_size _ fits
    · exact exact_size _ ⟨rfl, rfl⟩
  · exact exact_size _ ⟨rfl, rfl⟩
  · exact exact_size _ ⟨rfl, rfl⟩

namespace PartCache

variable {c : PartCache α} {index : Nat} {tile : Tile}

/-- What is reported of tile `index`, which is `tile`. -/
def report (c : PartCache α) (index : Nat) (tile : Tile) : TouchedTile :=
  { part := c.part, index, bounds := tile.bounds, pixels := tile.pixels }

/-- Tile `index`, which is `tile`, has pixels in `dirty`. -/
structure Meets (c : PartCache α) (dirty : Rect .device) (index : Nat) (tile : Tile) : Prop where
  found : c.tiles[index]? = some tile
  meets : tile.pixels.intersects dirty = true

/-- The jobs that a renderer is given during a pass. -/
def jobs (c : PartCache α) (surface : Bitmap) (window : PaintWindow) (dirty : Rect .device)
    (deadline : Nat) (renderer : Renderer σ) (s : σ) : List DrawJob :=
  (c.paint surface window dirty deadline renderer.noting (s, [])).renderer.2

/-- A pass over `dirty`, which began with the cache `c`, has sorted the tiles and given its renderer
`jobs`. -/
structure Classifies (c : PartCache α) (dirty : Rect .device) (jobs : List DrawJob)
    (pass : TilePass α σ) : Prop where
  listedOnce : ((pass.ready ++ pass.pending).toList.map TouchedTile.index).Nodup
  ready : ∀ touched, touched ∈ pass.ready ↔
    pass.cache.valid.contains touched.index = true ∧
      ∃ tile, c.Meets dirty touched.index tile ∧ touched = c.report touched.index tile
  pending : ∀ touched, touched ∈ pass.pending ↔
    pass.cache.valid.contains touched.index = false ∧
      ∃ tile, c.Meets dirty touched.index tile ∧ touched = c.report touched.index tile
  askedOnce : (jobs.map fun job => job.key.index).Nodup
  asked : ∀ job ∈ jobs, ∃ tile, c.Meets dirty job.key.index tile ∧
    c.valid.contains job.key.index = false ∧ tile.isLent = false ∧
    job.key = c.keyOf job.key.index tile ∧ job.area = tile.bounds ∧
    job.bitmap.size = tile.pixels.size
  unlisted : ∀ index : Nat, (∀ tile, ¬ c.Meets dirty index tile) →
    pass.cache.tiles[index]? = c.tiles[index]? ∧
      pass.cache.valid.contains index = c.valid.contains index
  epochs : ∀ index : Nat,
    pass.cache.tiles[index]?.map Tile.epoch = c.tiles[index]?.map Tile.epoch

section Areas

variable {dirty dirty' : Rect .device} {jobs : List DrawJob} {pass : TilePass α σ}

/-- Nothing meets an area whose far edge wraps around. -/
lemma Meets.not_effective (overflows : dirty.overflows = true) :
    ¬ c.Meets dirty.effective index tile := by
  rintro ⟨-, meets⟩
  obtain ⟨p, -, mem⟩ := Rect.intersects_iff.1 meets
  exact Bool.noConfusion ((Rect.mem_effective.1 mem).1.symm.trans overflows)

/-- Areas that meet the same tiles are the same to a pass. -/
lemma Classifies.congr (h : c.Classifies dirty jobs pass)
    (same : ∀ index tile, c.Meets dirty index tile ↔ c.Meets dirty' index tile) :
    c.Classifies dirty' jobs pass where
  listedOnce := h.listedOnce
  ready := by simpa only [same] using h.ready
  pending := by simpa only [same] using h.pending
  askedOnce := h.askedOnce
  asked := by simpa only [same] using h.asked
  unlisted := by simpa only [same] using h.unlisted
  epochs := h.epochs

/-- What a pass has listed says which tiles meet its area. -/
lemma Classifies.meets_of_meets (h : c.Classifies dirty jobs pass)
    (h' : c.Classifies dirty' jobs pass) (meets : c.Meets dirty' index tile) :
    c.Meets dirty index tile := by
  have same {touched : TouchedTile} (listed : ∃ other, c.Meets dirty touched.index other ∧
      touched = c.report touched.index other) (here : touched.index = index) :
      c.Meets dirty index tile := by
    obtain ⟨other, found, -⟩ := listed
    rw [here] at found
    exact Option.some.inj (found.found.symm.trans meets.found) ▸ found
  cases valid : pass.cache.valid.contains index with
  | true =>
      have listed := (h'.ready (c.report index tile)).2 ⟨valid, tile, meets, rfl⟩
      exact same ((h.ready _).1 listed).2 rfl
  | false =>
      have listed := (h'.pending (c.report index tile)).2 ⟨valid, tile, meets, rfl⟩
      exact same ((h.pending _).1 listed).2 rfl

end Areas

end PartCache

/-! ## One visit -/

namespace TilePass

open PartCache (getElem?_setSlot_self getElem?_setSlot_of_ne)

variable {renderer : Renderer σ} {window : PaintWindow} {deadline index : Nat} {tile : Tile}
  {c : PartCache α} {worked : List Nat} {pass pass' : TilePass α (σ × List DrawJob)}

/-- What a visit of tile `index`, which is `tile`, comes to: the tile is listed by whether it is
valid afterwards, and nothing but its slot and its validity has changed. -/
structure Sorts (index : Nat) (tile : Tile) (pass pass' : TilePass α (σ × List DrawJob)) :
    Prop where
  listed :
    (pass'.ready = pass.ready.push (pass.touch index tile) ∧ pass'.pending = pass.pending ∧
      pass'.cache.valid.contains index = true) ∨
    (pass'.ready = pass.ready ∧ pass'.pending = pass.pending.push (pass.touch index tile) ∧
      pass'.cache.valid.contains index = false)
  jobs : pass'.renderer.2 = pass.renderer.2 ∨
    (pass.cache.valid.contains index = false ∧ tile.isLent = false ∧
      pass'.renderer.2 = pass.renderer.2 ++ [pass.cache.jobOf index tile])
  slot : ∃ slot, pass'.cache.tiles[index]? = some { tile with slot }
  others : ∀ other : Nat, other ≠ index →
    pass'.cache.tiles[other]? = pass.cache.tiles[other]? ∧
      pass'.cache.valid.contains other = pass.cache.valid.contains other

lemma sorts_visited (marks : pass.cache.Marks) (found : pass.cache.tiles[index]? = some tile)
    (visited : Visited renderer.noting window deadline pass index pass') :
    Sorts index tile pass pass' := by
  have same {other : Tile} (h : pass.cache.tiles[index]? = some other) : other = tile :=
    Option.some.inj (h.symm.trans found)
  have kept : ∃ slot, pass.cache.tiles[index]? = some { tile with slot } := ⟨tile.slot, found⟩
  have moved (slot : TileSlot) (other : Nat) (apart : other ≠ index) :
      (pass.cache.setSlot index slot).tiles[other]? = pass.cache.tiles[other]? :=
    getElem?_setSlot_of_ne (Ne.symm apart)
  cases visited with
  | missing none => cases none.symm.trans found
  | shown _ at_home valid =>
      obtain rfl := same at_home
      exact ⟨.inl ⟨rfl, rfl, valid⟩, .inl rfl, kept, fun _ _ => ⟨rfl, rfl⟩⟩
  | lent _ away invalid =>
      obtain rfl := same away
      exact ⟨.inr ⟨rfl, rfl, invalid⟩, .inl rfl, kept, fun _ _ => ⟨rfl, rfl⟩⟩
  | late _ at_home invalid =>
      obtain rfl := same at_home
      exact ⟨.inr ⟨rfl, rfl, invalid⟩, .inl rfl, kept, fun _ _ => ⟨rfl, rfl⟩⟩
  | drawn _ bitmap asks =>
      obtain rfl := same asks.found
      refine ⟨.inl ⟨rfl, rfl, marks.contains_takeIn found _⟩, .inr ⟨asks.invalid, asks.home, rfl⟩,
        ⟨_, getElem?_setSlot_self found⟩, fun other apart => ⟨moved _ other apart, ?_⟩⟩
      exact ((marks.setSlot index _).contains_markValid index other).trans (by simp [apart])
  | deferred _ asks =>
      obtain rfl := same asks.found
      exact ⟨.inr ⟨rfl, rfl, asks.invalid⟩, .inr ⟨asks.invalid, asks.home, rfl⟩,
        ⟨_, getElem?_setSlot_self found⟩, fun other apart => ⟨moved _ other apart, rfl⟩⟩
  | failed _ bitmap _ asks =>
      obtain rfl := same asks.found
      exact ⟨.inr ⟨rfl, rfl, asks.invalid⟩, .inr ⟨asks.invalid, asks.home, rfl⟩,
        ⟨_, getElem?_setSlot_self found⟩, fun other apart => ⟨moved _ other apart, rfl⟩⟩

namespace Sorts

variable {touched : TouchedTile} {job : DrawJob} (sorts : Sorts index tile pass pass')

include sorts

/-- Its tile is what a visit adds to the lists. -/
lemma perm : List.Perm (pass'.ready ++ pass'.pending).toList
    (pass.touch index tile :: (pass.ready ++ pass.pending).toList) := by
  rcases sorts.listed with ⟨ready, pending, -⟩ | ⟨ready, pending, -⟩ <;>
    rw [ready, pending, Array.toList_append, Array.toList_append, Array.toList_push]
  · rw [List.append_assoc]
    exact List.perm_middle
  · rw [← List.append_assoc]
    exact List.perm_append_singleton _ _

lemma mem_ready (mem : touched ∈ pass'.ready) : touched ∈ pass.ready ∨
    touched = pass.touch index tile ∧ pass'.cache.valid.contains index = true := by
  rcases sorts.listed with ⟨ready, -, valid⟩ | ⟨ready, -, -⟩ <;> rw [ready] at mem
  · exact (Array.mem_push.1 mem).imp_right fun new => ⟨new, valid⟩
  · exact .inl mem

lemma mem_pending (mem : touched ∈ pass'.pending) : touched ∈ pass.pending ∨
    touched = pass.touch index tile ∧ pass'.cache.valid.contains index = false := by
  rcases sorts.listed with ⟨-, pending, -⟩ | ⟨-, pending, invalid⟩ <;> rw [pending] at mem
  · exact .inl mem
  · exact (Array.mem_push.1 mem).imp_right fun new => ⟨new, invalid⟩

lemma mem_jobs (mem : job ∈ pass'.renderer.2) : job ∈ pass.renderer.2 ∨
    job = pass.cache.jobOf index tile ∧
      pass.cache.valid.contains index = false ∧ tile.isLent = false := by
  rcases sorts.jobs with same | ⟨invalid, home, more⟩
  · exact .inl (same ▸ mem)
  · rw [more] at mem
    exact (List.mem_append.1 mem).imp_right fun new => ⟨List.mem_singleton.1 new, invalid, home⟩

lemma sublist_jobs : List.Sublist (pass'.renderer.2.map fun job => job.key.index)
    (pass.renderer.2.map (fun job => job.key.index) ++ [index]) := by
  rcases sorts.jobs with same | ⟨-, -, more⟩
  · rw [same]
    exact List.sublist_append_left _ _
  · rw [more, List.map_append]
    exact List.Sublist.refl _

/-- A visit changes no epoch. -/
lemma epoch (found : pass.cache.tiles[index]? = some tile) (other : Nat) :
    pass'.cache.tiles[other]?.map Tile.epoch = pass.cache.tiles[other]?.map Tile.epoch := by
  by_cases same : other = index
  · obtain ⟨slot, here⟩ := sorts.slot
    rw [same, here, found]
    rfl
  · rw [(sorts.others other same).1]

end Sorts

/-! ## All visits -/

/-- A pass that began with the cache `c` has sorted the tiles in `worked`. -/
structure Sorted (c : PartCache α) (worked : List Nat) (pass : TilePass α (σ × List DrawJob)) :
    Prop where
  outline : pass.cache.outline = c.outline
  marks : pass.cache.Marks
  listed : List.Perm ((pass.ready ++ pass.pending).toList.map TouchedTile.index) worked
  reports : ∀ touched ∈ pass.ready ++ pass.pending,
    ∃ tile, c.tiles[touched.index]? = some tile ∧ touched = c.report touched.index tile
  ready : ∀ touched ∈ pass.ready, pass.cache.valid.contains touched.index = true
  pending : ∀ touched ∈ pass.pending, pass.cache.valid.contains touched.index = false
  askedOnce : List.Sublist (pass.renderer.2.map fun job => job.key.index) worked
  asked : ∀ job ∈ pass.renderer.2, ∃ tile, c.tiles[job.key.index]? = some tile ∧
    c.valid.contains job.key.index = false ∧ tile.isLent = false ∧ job = c.jobOf job.key.index tile
  unvisited : ∀ index : Nat, index ∉ worked →
    pass.cache.tiles[index]? = c.tiles[index]? ∧
      pass.cache.valid.contains index = c.valid.contains index
  epochs : ∀ index : Nat,
    pass.cache.tiles[index]?.map Tile.epoch = c.tiles[index]?.map Tile.epoch

namespace Sorted

lemma start (marks : c.Marks) (surface : Bitmap) (s : σ) :
    Sorted c [] { cache := c, surface, ready := #[], pending := #[], renderer := (s, []) } where
  outline := rfl
  marks := marks
  listed := .nil
  reports := by simp
  ready := by simp
  pending := by simp
  askedOnce := .slnil
  asked := by simp
  unvisited := fun _ _ => ⟨rfl, rfl⟩
  epochs := fun _ => rfl

/-- What is listed has been visited. -/
lemma mem_worked (h : Sorted c worked pass) {touched : TouchedTile}
    (mem : touched ∈ pass.ready ++ pass.pending) : touched.index ∈ worked :=
  h.listed.mem_iff.1 (List.mem_map_of_mem (Array.mem_toList_iff.2 mem))

/-- A visit of one more tile. -/
lemma next (h : Sorted c worked pass) (fresh : index ∉ worked)
    (found : c.tiles[index]? = some tile)
    (visited : Visited renderer.noting window deadline pass index pass') :
    Sorted c (worked ++ [index]) pass' := by
  obtain ⟨sameTile, sameMark⟩ := h.unvisited index fresh
  have here := sameTile.trans found
  have sorts := sorts_visited h.marks here visited
  obtain ⟨part, -, generation, -⟩ := PartCache.outline_fields h.outline
  have touch : pass.touch index tile = c.report index tile := by
    rw [TilePass.touch, PartCache.report, part]
  have job : pass.cache.jobOf index tile = c.jobOf index tile := by
    rw [PartCache.jobOf, PartCache.jobOf, PartCache.keyOf, PartCache.keyOf, part, generation]
  have kept {touched : TouchedTile} (mem : touched ∈ pass.ready ++ pass.pending) :
      pass'.cache.valid.contains touched.index = pass.cache.valid.contains touched.index :=
    (sorts.others _ fun same => fresh (same ▸ h.mem_worked mem)).2
  refine {
    outline := (PartCache.outline_visited visited).trans h.outline
    marks := h.marks.visited visited
    listed := ?_
    reports := fun touched mem => ?_
    ready := fun touched mem => ?_
    pending := fun touched mem => ?_
    askedOnce := sorts.sublist_jobs.trans (h.askedOnce.append (List.Sublist.refl _))
    asked := fun asked mem => ?_
    unvisited := fun other unvisited => ?_
    epochs := fun other => (sorts.epoch here other).trans (h.epochs other) }
  · have longer := (sorts.perm.map TouchedTile.index).trans (h.listed.cons index)
    exact longer.trans (List.perm_append_singleton index worked).symm
  · rcases List.mem_cons.1 (sorts.perm.mem_iff.1 (Array.mem_toList_iff.2 mem)) with rfl | mem
    · exact ⟨tile, found, touch⟩
    · exact h.reports touched (Array.mem_toList_iff.1 mem)
  · rcases sorts.mem_ready mem with old | ⟨rfl, valid⟩
    · exact (kept (Array.mem_append_left _ old)).trans (h.ready touched old)
    · exact valid
  · rcases sorts.mem_pending mem with old | ⟨rfl, invalid⟩
    · exact (kept (Array.mem_append_right _ old)).trans (h.pending touched old)
    · exact invalid
  · rcases sorts.mem_jobs mem with old | ⟨rfl, invalid, home⟩
    · exact h.asked asked old
    · exact ⟨tile, found, sameMark ▸ invalid, home, job⟩
  · rw [List.mem_append, List.mem_singleton, not_or] at unvisited
    obtain ⟨sameTile, sameMark⟩ := sorts.others other unvisited.2
    exact ⟨sameTile.trans (h.unvisited other unvisited.1).1,
      sameMark.trans (h.unvisited other unvisited.1).2⟩

/-- The tiles in `indices` are still to be visited. -/
lemma foldl (h : Sorted c worked pass) (indices : List Nat) (apart : (worked ++ indices).Nodup)
    (inside : ∀ index ∈ indices, index < c.tiles.size) :
    Sorted c (worked ++ indices)
      (indices.foldl (visit renderer.noting window deadline) pass) := by
  induction indices generalizing worked pass with
  | nil => exact (List.append_nil worked).symm ▸ h
  | cons index indices ih =>
      have fresh : index ∉ worked := fun mem =>
        (List.nodup_append.1 apart).2.2 index mem index List.mem_cons_self rfl
      have found := Array.getElem?_eq_getElem (inside index List.mem_cons_self)
      have more : Sorted c (worked ++ [index]) (pass.visit renderer.noting window deadline index) :=
        h.next fresh found (visited pass index)
      rw [List.append_cons] at apart ⊢
      exact ih more apart fun other mem => inside other (List.mem_cons_of_mem index mem)

/-- When all tiles that meet an area have been visited, these are the tiles that are listed. -/
lemma listed_iff (h : Sorted c worked pass) {dirty : Rect .device}
    (visits : ∀ index, index ∈ worked ↔ ∃ tile, c.Meets dirty index tile) (touched : TouchedTile) :
    touched ∈ pass.ready ++ pass.pending ↔
      ∃ tile, c.Meets dirty touched.index tile ∧ touched = c.report touched.index tile := by
  constructor
  · intro mem
    obtain ⟨tile, found, reported⟩ := h.reports touched mem
    obtain ⟨same, meets⟩ := (visits _).1 (h.mem_worked mem)
    obtain rfl := Option.some.inj (found.symm.trans meets.found)
    exact ⟨tile, meets, reported⟩
  · rintro ⟨tile, meets, reported⟩
    have visited := h.listed.mem_iff.2 ((visits _).2 ⟨tile, meets⟩)
    obtain ⟨listed, mem, same⟩ := List.mem_map.1 visited
    obtain ⟨there, found, reported'⟩ := h.reports listed (Array.mem_toList_iff.1 mem)
    rw [same] at found reported'
    obtain rfl := Option.some.inj (found.symm.trans meets.found)
    rw [reported, ← reported']
    exact Array.mem_toList_iff.1 mem

/-- A pass that has sorted the tiles that meet an area has done all it had to. -/
lemma classifies (h : Sorted c worked pass) {dirty : Rect .device} (nodup : worked.Nodup)
    (visits : ∀ index, index ∈ worked ↔ ∃ tile, c.Meets dirty index tile)
    (sizes : ∀ index tile, c.tiles[index]? = some tile →
      (c.jobOf index tile).bitmap.size = tile.pixels.size) :
    c.Classifies dirty pass.renderer.2 (pass.mapState Prod.fst) where
  listedOnce := h.listed.nodup_iff.2 nodup
  ready := by
    intro touched
    rw [← h.listed_iff visits]
    refine ⟨fun mem => ⟨h.ready touched mem, Array.mem_append_left _ mem⟩, ?_⟩
    rintro ⟨valid, mem⟩
    refine (Array.mem_append.1 mem).resolve_right fun waiting => ?_
    exact Bool.noConfusion (valid.symm.trans (h.pending touched waiting))
  pending := by
    intro touched
    rw [← h.listed_iff visits]
    refine ⟨fun mem => ⟨h.pending touched mem, Array.mem_append_right _ mem⟩, ?_⟩
    rintro ⟨invalid, mem⟩
    refine (Array.mem_append.1 mem).resolve_left fun done => ?_
    exact Bool.noConfusion (invalid.symm.trans (h.ready touched done))
  askedOnce := nodup.sublist h.askedOnce
  asked := by
    intro job mem
    obtain ⟨tile, found, invalid, home, asks⟩ := h.asked job mem
    obtain ⟨same, meets⟩ := (visits _).1 (h.askedOnce.subset (List.mem_map_of_mem mem))
    obtain rfl := Option.some.inj (found.symm.trans meets.found)
    exact ⟨tile, meets, invalid, home, congrArg DrawJob.key asks, congrArg DrawJob.area asks,
      (congrArg (fun job : DrawJob => job.bitmap.size) asks).trans (sizes _ tile found)⟩
  unlisted := by
    intro index missed
    refine h.unvisited index fun mem => ?_
    obtain ⟨tile, meets⟩ := (visits index).1 mem
    exact missed tile meets
  epochs := h.epochs

end Sorted

end TilePass

/-! ## A whole pass -/

namespace PartCache

section Built

variable [Arithmetic α] {part tileEdge generation index : Nat} {scale : Scale α}
  {documentSize : Size .twips} {c : PartCache α} {dirty : Rect .device}

/-- The tiles that a pass visits are those that meet its area. -/
lemma mem_overlapping_iff_meets
    (built : c.outline = build part scale documentSize tileEdge generation)
    (hwidth : c.tiling.size.width ≤ Tiling.maxExtent)
    (hheight : c.tiling.size.height ≤ Tiling.maxExtent) :
    index ∈ c.tiling.overlapping dirty ↔ ∃ tile, c.Meets dirty index tile := by
  rw [Tiling.mem_overlapping_iff_intersects hwidth hheight, ← size_tiles_of_outline built]
  constructor
  · rintro ⟨inside, meets⟩
    have found := Array.getElem?_eq_getElem inside
    exact ⟨_, found, (pixels_of_outline built found).symm ▸ meets⟩
  · rintro ⟨tile, found, meets⟩
    exact ⟨(Array.getElem?_eq_some_iff.1 found).1, pixels_of_outline built found ▸ meets⟩

/-- The tiles that a pass visits are there. -/
lemma lt_size_of_mem_overlapping
    (built : c.outline = build part scale documentSize tileEdge generation)
    (hwidth : c.tiling.size.width ≤ Tiling.maxExtent)
    (hheight : c.tiling.size.height ≤ Tiling.maxExtent)
    (mem : index ∈ c.tiling.overlapping dirty) : index < c.tiles.size := by
  obtain ⟨tile, meets⟩ := (mem_overlapping_iff_meets built hwidth hheight).1 mem
  exact (Array.getElem?_eq_some_iff.1 meets.found).1

/-- The bitmap of a job has the size of its tile. -/
lemma size_jobOf (built : c.outline = build part scale documentSize tileEdge generation)
    {tile : Tile} (found : c.tiles[index]? = some tile) :
    (c.jobOf index tile).bitmap.size = tile.pixels.size := by
  have pixels := pixels_of_outline built found
  refine Tile.size_toLend ?_ ?_ <;> rw [pixels, Tiling.rect] <;> exact Int.le_max_right _ _

end Built

section Classifies

variable [Arithmetic α] {c : PartCache α} (hwidth : c.tiling.size.width ≤ Tiling.maxExtent)
  (hheight : c.tiling.size.height ≤ Tiling.maxExtent) (surface : Bitmap) (window : PaintWindow)
  (dirty : Rect .device) (deadline : Nat) (renderer : Renderer σ) (s : σ)

include hwidth hheight

/-- A sweep visits the tiles that its area meets, and has sorted them in the end. -/
lemma sorted_sweep {part tileEdge generation : Nat} {scale : Scale α} {documentSize : Size .twips}
    (built : c.outline = build part scale documentSize tileEdge generation) (marks : c.Marks) :
    TilePass.Sorted c (c.tiling.overlapping dirty)
      (c.sweep surface window dirty deadline renderer.noting (s, [])) :=
  (TilePass.Sorted.start marks surface s).foldl _ (Tiling.nodup_overlapping hwidth dirty)
    fun _ => lt_size_of_mem_overlapping built hwidth hheight

/-- **A sweep sorts each tile that it has to do with once.** -/
theorem classifies_of_outline {part tileEdge generation : Nat} {scale : Scale α}
    {documentSize : Size .twips}
    (built : c.outline = build part scale documentSize tileEdge generation) (marks : c.Marks) :
    c.Classifies dirty (c.sweep surface window dirty deadline renderer.noting (s, [])).renderer.2
      (c.sweep surface window dirty deadline renderer s) := by
  have sorted := sorted_sweep hwidth hheight surface window dirty deadline renderer s built marks
  have same := c.sweep_mapState renderer.noting_maps surface window dirty deadline (s, [])
  refine same ▸ sorted.classifies (Tiling.nodup_overlapping hwidth dirty) (fun index => ?_)
    fun index tile => size_jobOf built
  exact mem_overlapping_iff_meets built hwidth hheight

end Classifies

/-- A row of three tiles.  The first is valid, the second is lent, and the third could not be
drawn. -/
def threeFates : PartCache Float :=
  let fate (job : DrawJob) : DrawOutcome :=
    match job.key.index with
    | 0 => .drawn job.bitmap
    | 1 => .deferred
    | _ => .failed job.bitmap .engineUnavailable
  ((build 0 .identity ⟨45, 15⟩ 1 1).paint .empty ⟨.zero, .empty⟩ ⟨0, 0, 3, 1⟩ 1
    (Renderer.constant fate) ()).cache

end PartCache

end TiledView
