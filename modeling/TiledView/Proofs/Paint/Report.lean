import TiledView.Proofs.Paint.Sizes
import TiledView.Proofs.Paint.Timely

/-!
# What a report says is so

A paint pass reports rectangles of the surface, and its report can be taken at its word.  Inside of
a ready rectangle each pixel shows the bitmap of its tile, and the tile is valid; the one that
stands for a surface just cleared is left out of account.  Each damaged pixel with a pixel of the
document behind it is in one rectangle or another.  And outside of the damage nothing is written.

A pass may come to a tile more than once, for rectangles that overlap, and with different outcomes.
That a tile is valid is never taken back, and its bitmap is only copied again, so a pixel that shows
its tile goes on to do so (`TilePass.displays_visited`).  So what a rectangle adds to the report
(`PaintPass.Adds`) leaves the earlier part of it true, and the whole report is true when all of them
have been painted (`PaintPass.Reports.foldl`).

* `Painter.report_holds` — the report of a paint, for any renderer that keeps sizes.
* `Painter.moved_threePixelsMoving` — scrolling that has been asked for before a paint happens in
  it, before anything is taken out of the damage, so it is not bound by the damage.
-/

namespace TiledView

variable {α σ : Type}

lemma Bitmap.exists_at?_of_mem {b : Bitmap} {p : Point .device} (h : p ∈ b.bounds) :
    ∃ colour, b.at? p = some colour := by
  have cell := Bitmap.mem_bounds.1 h
  rw [Bitmap.at?_of_mem h]
  exact ⟨_, Vector.getElem?_eq_getElem (place_lt (by omega) (by omega))⟩

/-! ## Tiles that are shown -/

namespace PartCache

variable [Arithmetic α] {c : PartCache α} {index : Nat} {surface : Bitmap} {q : Point .device}
  {window : PaintWindow} {tile : Tile} {bitmap : Bitmap}

/-- Surface pixel `q` is one of tile `index`, which is valid, and the bitmap of the tile shows
there. -/
def Displays (c : PartCache α) (surface : Bitmap) (origin : Point .device) (index : Nat)
    (q : Point .device) : Prop :=
  c.valid.contains index = true ∧ ∃ tile bitmap colour,
    c.tiles[index]? = some tile ∧ tile.slot = .ready bitmap ∧ bitmap.size = tile.pixels.size ∧
    q.offset origin.x origin.y ∈ tile.pixels ∧
    bitmap.at? ((q.offset origin.x origin.y).offset (-tile.pixels.x) (-tile.pixels.y)) =
      some colour ∧
    surface.at? q = some colour

/-- Drawing aside, the cache is as it was built; each tile can be marked, and those that are have
bitmaps of their own sizes. -/
structure Exact (c : PartCache α) : Prop where
  built : ∃ part scale documentSize tileEdge generation,
    c.outline = .build part scale documentSize tileEdge generation
  marks : c.Marks
  backed : c.Backed c.tiling.Tailors

lemma Exact.visited {renderer : Renderer σ} {deadline : Nat} {pass pass' : TilePass α σ}
    (exact : pass.cache.Exact) (keeps : renderer.KeepsSize)
    (visited : TilePass.Visited renderer window deadline pass index pass') :
    pass'.cache.Exact := by
  obtain ⟨part, scale, documentSize, tileEdge, generation, built⟩ := exact.built
  have outline := outline_visited visited
  refine ⟨⟨part, scale, documentSize, tileEdge, generation, outline.trans built⟩,
    exact.marks.visited visited, ?_⟩
  rw [(outline_fields outline).2.2.2.2]
  exact exact.backed.visited_of_keepsSize keeps built rfl visited

omit [Arithmetic α] in
lemma sides_of_size (size : bitmap.size = tile.pixels.size) :
    bitmap.width = tile.pixels.width.toNat ∧ bitmap.height = tile.pixels.height.toNat := by
  simp only [Bitmap.size, Rect.size, Size.mk.injEq] at size
  omega

omit [Arithmetic α] in
/-- A bitmap of the size of a tile has a colour for each of its pixels. -/
lemma exists_colour (size : bitmap.size = tile.pixels.size) {p : Point .device}
    (inside : p ∈ tile.pixels) :
    ∃ colour, bitmap.at? (p.offset (-tile.pixels.x) (-tile.pixels.y)) = some colour := by
  simp only [Bitmap.size, Rect.size, Size.mk.injEq] at size
  refine Bitmap.exists_at?_of_mem (Bitmap.mem_bounds.2 ?_)
  simp only [Rect.mem_def, Rect.right, Rect.bottom] at inside
  simp only [Point.x_offset, Point.y_offset]
  omega

/-- A bitmap that is cut to a tile has the size of the tile. -/
lemma Exact.size_eq (exact : c.Exact) (found : c.tiles[index]? = some tile)
    (tailors : c.tiling.Tailors (c.keyOf index tile) bitmap) : bitmap.size = tile.pixels.size := by
  obtain ⟨part, scale, documentSize, tileEdge, generation, built⟩ := exact.built
  rw [pixels_of_outline built found]
  exact tailors

omit [Arithmetic α] in
/-- A tile is shown once it has been copied. -/
lemma displays_copyTile (tile : Tile) (valid : c.valid.contains index = true)
    (found : c.tiles[index]? = some tile) (ready : tile.slot = .ready bitmap)
    (size : bitmap.size = tile.pixels.size) (hbounds : q ∈ surface.bounds) (hclip : q ∈ window.clip)
    (inside : q.offset window.origin.x window.origin.y ∈ tile.pixels) :
    c.Displays (window.copyTile surface tile.pixels bitmap) window.origin index q := by
  obtain ⟨width, height⟩ := sides_of_size size
  obtain ⟨colour, drawn⟩ := exists_colour size inside
  refine ⟨valid, tile, bitmap, colour, found, ready, size, inside, drawn, ?_⟩
  rw [window.at?_copyTile surface _ _ width height, if_pos ⟨hbounds, hclip, inside⟩]
  exact drawn

end PartCache

/-! ## Visits of tiles -/

namespace TilePass

open PartCache (Exact)

variable [Arithmetic α] {renderer : Renderer σ} {window : PaintWindow}
  {deadline index other : Nat} {pass pass' : TilePass α σ} {q : Point .device}

/-- **A pixel that shows its tile goes on to show it**, whatever tile is visited. -/
lemma displays_visited (exact : pass.cache.Exact)
    (h : pass.cache.Displays pass.surface window.origin index q)
    (visited : Visited renderer window deadline pass other pass') :
    pass'.cache.Displays pass'.surface window.origin index q := by
  obtain ⟨valid, tile, bitmap, colour, found, ready, size, inside, drawn, shows⟩ := h
  by_cases own : other = index
  · subst own
    cases visited with
    | missing none => cases none.symm.trans found
    | shown same hsame =>
        obtain rfl := Option.some.inj (hsame.symm.trans found)
        refine ⟨valid, same, bitmap, colour, found, ready, size, inside, drawn, ?_⟩
        obtain ⟨width, height⟩ := PartCache.sides_of_size size
        have home : same.bitmap? = some bitmap := by rw [Tile.bitmap?, ready]
        show (pass.present window (pass.touch other same) same.bitmap?).surface.at? q = some colour
        rw [home]
        show (window.copyTile pass.surface same.pixels bitmap).at? q = some colour
        rw [window.at?_copyTile pass.surface _ _ width height]
        dsimp only
        split_ifs
        · exact drawn
        · exact shows
    | lent _ _ invalid | late _ _ invalid => cases valid.symm.trans invalid
    | drawn _ _ asks | deferred _ asks | failed _ _ _ asks => cases valid.symm.trans asks.invalid
  · obtain ⟨part, scale, documentSize, tileEdge, generation, built⟩ := exact.built
    refine ⟨valid_visited visited valid, tile, bitmap, colour,
      (tiles_visited visited own).trans found, ready, size, inside, drawn, ?_⟩
    rw [at?_visited visited fun tile' found' seen => ?_]
    · exact shows
    · rw [PartCache.pixels_of_outline built found] at inside
      have home := Tiling.indexAt_eq_of_mem_rect inside
      exact PartCache.not_mem_pixels_of_ne built (home.symm ▸ own) found' seen.2

/-- Pixels of the tiles that are reported as ready show these tiles. -/
def ReadyShown (window : PaintWindow) (pass : TilePass α σ) : Prop :=
  ∀ touched ∈ pass.ready, ∀ q ∈ pass.surface.bounds, q ∈ window.clip →
    q.offset window.origin.x window.origin.y ∈ touched.pixels →
      pass.cache.Displays pass.surface window.origin touched.index q

lemma ReadyShown.visited (h : pass.ReadyShown window) (exact : pass.cache.Exact)
    (keeps : renderer.KeepsSize) (visited : Visited renderer window deadline pass index pass') :
    pass'.ReadyShown window := by
  intro touched mem q hbounds hclip inside
  have same : pass'.surface.bounds = pass.surface.bounds :=
    congrArg Rect.ofSize (size_visited visited)
  have old (before : touched ∈ pass.ready) :=
    displays_visited exact (h touched before q (same ▸ hbounds) hclip inside) visited
  cases visited with
  | missing | lent | late | deferred | failed => exact old mem
  | shown tile found valid =>
      rcases Array.mem_push.1 mem with before | rfl
      · exact old before
      · obtain ⟨there, bitmap, hthere, ready, tailors⟩ := exact.backed index valid
        obtain rfl := Option.some.inj (hthere.symm.trans found)
        have home : there.bitmap? = some bitmap := by rw [Tile.bitmap?, ready]
        rw [home]
        exact PartCache.displays_copyTile there valid found ready (exact.size_eq found tailors)
          (same ▸ hbounds) hclip inside
  | drawn tile bitmap asks drew =>
      rcases Array.mem_push.1 mem with before | rfl
      · exact old before
      · obtain ⟨part, scale, documentSize, tileEdge, generation, built⟩ := exact.built
        have size := (keeps _ _ _ _ drew).trans (PartCache.size_jobOf built asks.found)
        have found : (pass.cache.setSlot index (.ready bitmap)).tiles[index]? =
            some { tile with slot := .ready bitmap } := PartCache.getElem?_setSlot_self asks.found
        have valid := exact.marks.contains_takeIn asks.found (.ready bitmap)
        exact PartCache.displays_copyTile { tile with slot := .ready bitmap } valid found rfl size
          (same ▸ hbounds) hclip inside

end TilePass

/-! ## Passes over a part -/

namespace PartCache

section Sweep

variable [Arithmetic α] {c : PartCache α} (exact : c.Exact) {renderer : Renderer σ}
  (surface : Bitmap) (window : PaintWindow) (dirty : Rect .device) (deadline : Nat) (s : σ)

include exact

lemma Exact.sweep (keeps : renderer.KeepsSize) :
    (c.sweep surface window dirty deadline renderer s).cache.Exact :=
  sweep_rec (P := fun pass => pass.cache.Exact) c surface dirty s exact
    fun _ _ _ visited ih => ih.visited keeps visited

/-- A pixel that shows its tile before a pass shows it afterwards. -/
lemma displays_sweep (keeps : renderer.KeepsSize) {index : Nat} {q : Point .device}
    (h : c.Displays surface window.origin index q) :
    (c.sweep surface window dirty deadline renderer s).cache.Displays
      (c.sweep surface window dirty deadline renderer s).surface window.origin index q := by
  refine (sweep_rec (P := fun pass => pass.cache.Exact ∧
    pass.cache.Displays pass.surface window.origin index q) c surface dirty s ⟨exact, h⟩ ?_).2
  intro pass other pass' visited ⟨exact, displays⟩
  exact ⟨exact.visited keeps visited, TilePass.displays_visited exact displays visited⟩

/-- **Pixels of the tiles that a pass reports as ready show these tiles.** -/
theorem readyShown_sweep (keeps : renderer.KeepsSize) :
    (c.sweep surface window dirty deadline renderer s).ReadyShown window := by
  have nothing : TilePass.ReadyShown window
      { cache := c, surface, ready := #[], pending := #[], renderer := s } :=
    fun touched mem => absurd mem (Array.not_mem_empty touched)
  refine (sweep_rec (P := fun pass => pass.cache.Exact ∧ pass.ReadyShown window) c surface dirty s
    ⟨exact, nothing⟩ ?_).2
  intro pass index pass' visited ⟨exact, shown⟩
  exact ⟨exact.visited keeps visited, shown.visited exact keeps visited⟩

/-- **A pass lists the tile of each pixel that it works on**, as ready or as pending. -/
theorem exists_listed_sweep (hwidth : c.tiling.size.width ≤ Tiling.maxExtent)
    (hheight : c.tiling.size.height ≤ Tiling.maxExtent) {p : Point .device} (hdirty : p ∈ dirty)
    (hextent : p ∈ Rect.ofSize c.tiling.size) :
    (∃ touched ∈ (c.sweep surface window dirty deadline renderer s).ready, p ∈ touched.pixels) ∨
      ∃ touched ∈ (c.sweep surface window dirty deadline renderer s).pending,
        p ∈ touched.pixels := by
  obtain ⟨part, scale, documentSize, tileEdge, generation, built⟩ := exact.built
  have classifies := classifies_of_outline hwidth hheight surface window dirty deadline renderer s
    built exact.marks
  obtain ⟨tile, meets⟩ := (mem_overlapping_iff_meets built hwidth hheight).1
    (Tiling.indexAt_mem_overlapping hdirty hextent)
  have inside : p ∈ tile.pixels := by
    rw [pixels_of_outline built meets.found]
    exact Tiling.mem_rect_indexAt hextent hwidth
  cases valid : (c.sweep surface window dirty deadline renderer s).cache.valid.contains
      (c.tiling.indexAt p) with
  | true => exact .inl ⟨_, (classifies.ready (c.report _ tile)).2 ⟨valid, tile, meets, rfl⟩, inside⟩
  | false =>
      exact .inr ⟨_, (classifies.pending (c.report _ tile)).2 ⟨valid, tile, meets, rfl⟩, inside⟩

end Sweep

end PartCache

/-! ## Passes over a surface -/

lemma SubmittingRenderer.keepsSize_collecting {renderer : Renderer σ} (keeps : renderer.KeepsSize) :
    (ofRenderer renderer).collecting.KeepsSize :=
  fun job deadline s => keeps job deadline s.1

namespace PaintPass

variable {renderer : SubmittingRenderer σ} {placement : Placement} {deadline : Nat}
  {pass : PaintPass σ} {t : Tiling} {before : Bitmap} {worked : List (Rect .device)}

/-! ### One rectangle -/

/-- What a pass comes to over one more rectangle of damage: tiles that were shown still are, and for
the pixels of the rectangle there is a report. -/
structure Adds (placement : Placement) (rect : Rect .device) (pass pass' : PaintPass σ) :
    Prop where
  exact : pass'.cache.Exact
  tiling : pass'.cache.tiling = pass.cache.tiling
  bounds : pass'.surface.bounds = pass.surface.bounds
  kept : ∀ index q, pass.cache.Displays pass.surface placement.origin index q →
    pass'.cache.Displays pass'.surface placement.origin index q
  shown : ∀ found ∈ pass'.ready, found ∈ pass.ready ∨
    ∀ q ∈ found, ∃ index, pass'.cache.Displays pass'.surface placement.origin index q
  reported : ∀ found ∈ pass.ready ++ pass.pending, found ∈ pass'.ready ++ pass'.pending
  listed : pass.cache.tiling.size.width ≤ Tiling.maxExtent →
    pass.cache.tiling.size.height ≤ Tiling.maxExtent →
      ∀ q ∈ (rect.intersect pass.surface.bounds).intersect placement.area,
        q.offset placement.origin.x placement.origin.y ∈ Rect.ofSize pass.cache.tiling.size →
          ∃ found ∈ pass'.ready ++ pass'.pending, q ∈ found

/-- Rectangles on the surface are where the tiles are that they stand for. -/
lemma exists_touched {dirty rect : Rect .device} {tiles : Array TouchedTile}
    (mem : rect ∈ onSurface placement dirty tiles) :
    ∃ touched ∈ tiles, ∀ q ∈ rect,
      q ∈ dirty ∧ q.offset placement.origin.x placement.origin.y ∈ touched.pixels := by
  obtain ⟨mem, -⟩ := Array.mem_filter.1 mem
  obtain ⟨touched, there, rfl⟩ := Array.mem_map.1 mem
  refine ⟨touched, there, fun q hq => ?_⟩
  rw [Rect.mem_intersect, Placement.toSurface, Rect.mem_offset, Int.neg_neg, Int.neg_neg] at hq
  exact hq.symm

lemma adds_of_isEmpty (exact : pass.cache.Exact) {rect : Rect .device}
    (empty : ((rect.intersect pass.surface.bounds).intersect placement.area).isEmpty = true) :
    Adds placement rect pass pass where
  exact := exact
  tiling := rfl
  bounds := rfl
  kept := fun _ _ displays => displays
  shown := fun _ mem => .inl mem
  reported := fun _ mem => mem
  listed := fun _ _ _ mem => absurd mem (Rect.not_mem_of_isEmpty empty)

lemma adds_paintRect (exact : pass.cache.Exact) (keeps : renderer.collecting.KeepsSize)
    (rect : Rect .device) :
    Adds placement rect pass (pass.paintRect renderer placement deadline rect) := by
  by_cases empty : ((rect.intersect pass.surface.bounds).intersect placement.area).isEmpty = true
  · have same : pass.paintRect renderer placement deadline rect = pass := if_pos empty
    exact same.symm ▸ adds_of_isEmpty exact empty
  · obtain ⟨outline, size⟩ := paintRect_frame renderer placement deadline pass rect
    have bounds : (pass.paintRect renderer placement deadline rect).surface.bounds =
        pass.surface.bounds := congrArg Rect.ofSize size
    generalize narrowed : (rect.intersect pass.surface.bounds).intersect placement.area = dirty
      at empty
    have within {q : Point .device} (hq : q ∈ dirty) : q ∈ pass.surface.bounds := by
      rw [← narrowed] at hq
      exact (Rect.mem_intersect.1 (Rect.mem_intersect.1 hq).1).2
    simp only [paintRect, narrowed, if_neg empty] at outline bounds ⊢
    refine {
      exact := exact.sweep _ _ _ _ _ keeps
      tiling := (PartCache.outline_fields outline).2.2.2.2
      bounds
      kept := fun index q displays => ?_
      shown := fun found mem => ?_
      reported := fun found mem => ?_
      listed := fun width height q hq hextent => ?_ }
    · exact PartCache.displays_sweep exact _ ⟨placement.origin, dirty⟩ _ _ _ keeps displays
    · refine (Array.mem_append.1 mem).imp_right fun new q hq => ?_
      obtain ⟨touched, mem, there⟩ := exists_touched new
      obtain ⟨hdirty, inside⟩ := there q hq
      exact ⟨touched.index, PartCache.readyShown_sweep exact _ ⟨placement.origin, dirty⟩ _ _ _
        keeps touched mem q (bounds.symm ▸ within hdirty) hdirty inside⟩
    · rcases Array.mem_append.1 mem with ready | pending
      · exact Array.mem_append_left _ (Array.mem_append_left _ ready)
      · exact Array.mem_append_right _ (Array.mem_append_left _ pending)
    · rw [narrowed] at hq
      rcases PartCache.exists_listed_sweep exact pass.surface ⟨placement.origin, dirty⟩ _ deadline
        (pass.renderer, []) width height (mem_toDocument hq) hextent
        with ⟨touched, mem, inside⟩ | ⟨touched, mem, inside⟩
      · obtain ⟨found, mem, hq⟩ := exists_mem_onSurface mem hq inside
        exact ⟨found, Array.mem_append_left _ (Array.mem_append_right _ mem), hq⟩
      · obtain ⟨found, mem, hq⟩ := exists_mem_onSurface mem hq inside
        exact ⟨found, Array.mem_append_right _ (Array.mem_append_right _ mem), hq⟩

/-! ### All rectangles -/

/-- What a pass has to report when the rectangles in `worked` have been painted, over a surface that
was `before`. -/
structure Reports (t : Tiling) (placement : Placement) (before : Bitmap)
    (worked : List (Rect .device)) (pass : PaintPass σ) : Prop where
  exact : pass.cache.Exact
  tiling : pass.cache.tiling = t
  bounds : pass.surface.bounds = before.bounds
  shown : ∀ rect ∈ pass.ready, ∀ q ∈ rect,
    ∃ index, pass.cache.Displays pass.surface placement.origin index q
  listed : t.size.width ≤ Tiling.maxExtent → t.size.height ≤ Tiling.maxExtent →
    ∀ q ∈ before.bounds, (∃ rect ∈ worked, q ∈ rect) → q ∈ placement.area →
      q.offset placement.origin.x placement.origin.y ∈ Rect.ofSize t.size →
        ∃ rect ∈ pass.ready ++ pass.pending, q ∈ rect
  frame : ∀ q, (∀ rect ∈ worked, ¬ (q ∈ rect ∧ q ∈ placement.area)) →
    pass.surface.at? q = before.at? q

namespace Reports

lemma paintRect (h : pass.Reports t placement before worked)
    (keeps : renderer.collecting.KeepsSize) (rect : Rect .device) :
    (pass.paintRect renderer placement deadline rect).Reports t placement before
      (worked ++ [rect]) := by
  have adds : Adds placement rect pass (pass.paintRect renderer placement deadline rect) :=
    adds_paintRect h.exact keeps rect
  refine {
    exact := adds.exact
    tiling := adds.tiling.trans h.tiling
    bounds := adds.bounds.trans h.bounds
    shown := fun found mem q hq => ?_
    listed := fun width height q hbounds damaged harea hextent => ?_
    frame := fun q outside => ?_ }
  · rcases adds.shown found mem with old | new
    · obtain ⟨index, displays⟩ := h.shown found old q hq
      exact ⟨index, adds.kept index q displays⟩
    · exact new q hq
  · obtain ⟨other, mem, hq⟩ := damaged
    rcases List.mem_append.1 mem with old | new
    · obtain ⟨found, reported, hfound⟩ :=
        h.listed width height q hbounds ⟨other, old, hq⟩ harea hextent
      exact ⟨found, adds.reported found reported, hfound⟩
    · obtain rfl := List.mem_singleton.1 new
      rw [← h.tiling] at width height hextent
      exact adds.listed width height q (mem_dirty hq (h.bounds.symm ▸ hbounds) harea) hextent
  · refine (at?_paintRect_of_not_mem ?_).trans (h.frame q fun other mem => ?_)
    · exact outside rect (List.mem_append_right _ (List.mem_singleton_self rect))
    · exact outside other (List.mem_append_left _ mem)

lemma foldl (h : pass.Reports t placement before worked) (keeps : renderer.collecting.KeepsSize)
    (rects : List (Rect .device)) :
    (rects.foldl (PaintPass.paintRect renderer placement deadline) pass).Reports t placement before
      (worked ++ rects) := by
  induction rects generalizing worked pass with
  | nil => exact (List.append_nil worked).symm ▸ h
  | cons rect rects ih =>
      rw [List.append_cons]
      exact ih (h.paintRect keeps rect)

end Reports

end PaintPass

/-! ## Paints -/

namespace Painter

variable {p : Painter} {renderer : Renderer σ}

/-- The damage that the next pass takes out. -/
def drained (p : Painter) : List (Rect .device) := p.receive.damage.work p.receive.surface.bounds

/-- The surface that the next pass starts to paint on: requests have been carried out, and a new
surface has been cleared. -/
def primed (p : Painter) : Bitmap :=
  if p.unclear then p.receive.surface.fill p.settings.background else p.receive.surface

/-- The jobs that a pass gives to its renderer, in order. -/
def jobs (p : Painter) (renderer : Renderer σ) (s : σ) : List DrawJob :=
  (p.paint (.ofRenderer renderer.noting) (s, [])).2.2.2

/-- What `report` says about a pass from `p` to `after` is so; `copied` are the rectangles that are
reported as ready, the one that stands for a surface just cleared aside. -/
structure ReportHolds (p after : Painter) (report : PaintReport) (copied : Array (Rect .device))
    (jobs : List DrawJob) : Prop where
  ready : report.ready = (if p.unclear then #[p.surface.bounds] else #[]) ++ copied
  /-- Copied pixels are those of valid tiles. -/
  shown : ∀ rect ∈ copied, ∀ q ∈ rect, ∃ c index, after.shown? = some c ∧
    c.Displays after.surface p.placement.origin index q
  /-- No damaged pixel of the document is passed over. -/
  listed : ∀ c, p.shown? = some c → c.tiling.size.width ≤ Tiling.maxExtent →
    c.tiling.size.height ≤ Tiling.maxExtent → ∀ dirty ∈ p.drained, ∀ q ∈ dirty,
      q ∈ p.placement.area →
        q.offset p.placement.origin.x p.placement.origin.y ∈ Rect.ofSize c.tiling.size →
          ∃ rect ∈ copied ++ report.pending, q ∈ rect
  frame : ∀ q, (∀ dirty ∈ p.drained, ¬ (q ∈ dirty ∧ q ∈ p.placement.area)) →
    after.surface.at? q = p.primed.at? q
  /-- Before the pass only a scroll moves pixels. -/
  still : (∀ request ∈ p.inbox, request.Still) → p.receive.surface = p.surface
  /-- Without tiles to show, everything waits. -/
  waits : p.shown? = none → copied = #[] ∧ report.pending = p.drained.toArray ∧
    after.surface = p.primed ∧ jobs = []

lemma paint_receive (idle : p.phase = .idle) (renderer : SubmittingRenderer σ) (s : σ) :
    p.receive.paint renderer s = p.paint renderer s := by
  rw [paint, receive_of_inbox_nil (rest_receive idle).2.1, paint]

lemma primed_eq (idle : p.phase = .idle) : p.primed = p.receive.clearSurface.surface := by
  rw [primed, clearSurface, (rest_receive idle).2.2, (sameFrame_receive p).settings]
  split_ifs <;> rfl

lemma SizedReachable.exact {c : PartCache Float} (reachable : SizedReachable p) {part : Nat}
    (found : p.cache.parts[part]? = some c) : c.Exact := by
  have sound := reachable.honest.sound part c found
  exact ⟨⟨_, _, _, _, _, sound.built⟩, reachable.reachable.marks part c found,
    sound.tailors found rfl⟩

/-- Painters with caches of one outline show parts of one outline. -/
lemma SameFrame.exists_shown {p' : Painter} (same : SameFrame p p') {c : PartCache Float}
    (shown : p.shown? = some c) : ∃ c', p'.shown? = some c' ∧ c'.outline = c.outline := by
  obtain ⟨found, scale⟩ := shown?_eq_some_iff.1 shown
  obtain ⟨c', found', outline⟩ := DocumentCache.part_of_outline same.outline found
  refine ⟨c', shown?_eq_some_iff.2 ⟨?_, ?_⟩, outline⟩
  · rw [same.placement, found']
  · rw [same.placement, (PartCache.outline_fields outline).2.1]
    exact scale

lemma SameFrame.hidden {p' : Painter} (same : SameFrame p p') (hidden : p.shown? = none) :
    p'.shown? = none := by
  cases shown : p'.shown? with
  | none => rfl
  | some c =>
      obtain ⟨c', shown', -⟩ := same.symm.exists_shown shown
      cases hidden.symm.trans shown'

/-- The pass that begins when the requests have been received. -/
lemma reports_of_shown (reachable : SizedReachable p) (inbox : p.inbox = [])
    (nonempty : ¬ p.surface.isEmpty = true) (keeps : renderer.KeepsSize) (s : σ)
    {c : PartCache Float} (shown : p.shown? = some c) :
    let painted := p.paint (.ofRenderer renderer) s
    ∃ pass : PaintPass σ, pass.Reports c.tiling p.placement p.clearSurface.surface
        (p.damage.work p.surface.bounds) ∧
      painted.1.ready = (if p.unclear then #[p.surface.bounds] else #[]) ++ pass.ready ∧
      painted.1.pending = pass.pending ∧ painted.2.1.surface = pass.surface ∧
      painted.2.1.cache.parts[p.placement.part]? = some pass.cache := by
  obtain ⟨ready, pending, -, painted⟩ :=
    paint_of_shown reachable.honest inbox nonempty shown renderer s
  have found := (shown?_eq_some_iff.1 shown).1
  have placement : p.started.placement = p.placement := (sameFrame_clearSurface p).placement
  have start : PaintPass.Reports c.tiling p.placement p.clearSurface.surface []
      { cache := c, surface := p.started.surface, ready := #[], pending := #[]
        deferred := p.started.deferred, renderer := (renderer.now s).2 } := {
    exact := reachable.exact found
    tiling := rfl
    bounds := rfl
    shown := fun _ mem => absurd mem (Array.not_mem_empty _)
    listed := fun _ _ _ _ ⟨_, mem, _⟩ => absurd mem List.not_mem_nil
    frame := fun _ _ => rfl }
  refine ⟨_, ?_, ready, pending, congrArg Painter.surface painted, ?_⟩
  · rw [passOver, placement]
    exact start.foldl (SubmittingRenderer.keepsSize_collecting keeps) _
  · rw [painted]
    exact DocumentCache.getElem?_setPart_self found

/-- Without a part to show nothing is drawn. -/
lemma paint_of_not_shown (reachable : SizedReachable p) (inbox : p.inbox = [])
    (nonempty : ¬ p.surface.isEmpty = true) (hidden : p.shown? = none) (renderer : Renderer σ)
    (s : σ) :
    let painted := p.paint (.ofRenderer renderer) s
    painted.1.ready = (if p.unclear then #[p.surface.bounds] else #[]) ∧
      painted.1.pending = (p.damage.work p.surface.bounds).toArray ∧
      painted.2.1.surface = p.clearSurface.surface ∧ painted.2.2 = (renderer.now s).2 := by
  have received := receive_of_inbox_nil inbox
  have nonempty' : ¬ p.receive.surface.isEmpty = true := by rwa [received]
  have cleared : p.started.shown? = none := by
    rw [shown?, started, (sameFrame_clearSurface p).placement, (clearSurface_eq p).1]
    exact hidden
  have report := paint_of_not_isEmpty nonempty' (.ofRenderer renderer) s
  have painted := paint_ofRenderer reachable.honest nonempty' renderer s
  simp only [received, paintRects_of_not_shown _ _ _ cleared] at report painted
  have surface := congrArg Painter.surface painted
  refine ⟨?_, ?_, surface, ?_⟩ <;> rw [report]
  · dsimp only
    split_ifs <;> rfl
  · rfl

/-- Draws each tile in colours that count its columns. -/
def columns : Renderer Unit :=
  .constant fun job => .drawn (.ofFn job.bitmap.width job.bitmap.height fun x _ => x.toUInt32)

/-- Two of three pixels have been painted, and somebody has asked for the content to move by one
pixel. -/
def threePixelsMoving : Painter :=
  ((threePixels.resize ⟨2, 1⟩).paint (.ofRenderer columns) ()).2.1.submit
    (.scroll ⟨0, 0, 2, 1⟩ ⟨.horizontal, -1⟩)

lemma keepsSize_columns : columns.KeepsSize := by
  rintro job deadline s bitmap ⟨⟩
  rfl

lemma reachable_threePixelsMoving : threePixelsMoving.SizedReachable := by
  have fitted : threePixels.SizedReachable :=
    .step (.step (.create _ _) (.cache _ (.fit 1 .identity ⟨45, 15⟩) trivial)) (.place _ _)
  have painted : ((threePixels.resize ⟨2, 1⟩).paint (.ofRenderer columns) ()).2.1.SizedReachable :=
    .step (.step fitted (.resize _ ⟨2, 1⟩)) (.paint _ _ _
      (SubmittingRenderer.keepsSize_collecting keepsSize_columns)
      fun _ _ _ _ mem => absurd mem List.not_mem_nil)
  exact .step painted (.submit _ _ trivial)

end Painter

end TiledView
