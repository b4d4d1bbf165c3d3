import TiledView.Proofs.Cache.Visit

/-!
# Two renderers, one pass

A paint pass sees of its renderer what it answers, and nothing of its state.  Where two renderers
give the same answers in states that correspond (`Renderer.Maps`), their passes are the same up to
that correspondence (`PartCache.sweep_mapState`).

The first use is to watch a renderer without changing what it does: `Renderer.recording` writes down
every job beside its outcome, and `PartCache.recorded` is what it has written after a pass.
-/

namespace TiledView

variable {α σ τ : Type}

/-- `f` takes each state of `r` to a state of `r'` with the same answers. -/
structure Renderer.Maps (f : σ → τ) (r : Renderer σ) (r' : Renderer τ) : Prop where
  now : ∀ s, r'.now (f s) = ((r.now s).1, f (r.now s).2)
  draw : ∀ job deadline s, r'.draw job deadline (f s) =
    ((r.draw job deadline s).1, f (r.draw job deadline s).2)

namespace TilePass

/-- The pass with the state of its renderer replaced. -/
def mapState (f : σ → τ) (pass : TilePass α σ) : TilePass α τ where
  cache := pass.cache
  surface := pass.surface
  ready := pass.ready
  pending := pass.pending
  renderer := f pass.renderer

variable {f : σ → τ} {r : Renderer σ} {r' : Renderer τ} {window : PaintWindow} {deadline : Nat}

/-- What `draw` makes of an answer. -/
def settle (pass : TilePass α σ) (window : PaintWindow) (index : Nat) (tile : Tile) :
    DrawOutcome × σ → TilePass α σ
  | (.drawn bitmap, s) =>
    { pass with
      cache := (pass.cache.setSlot index (.ready bitmap)).markValid index
      renderer := s }.present window (pass.touch index tile) (some bitmap)
  | (.deferred, s) =>
    { pass with cache := pass.cache.setSlot index .lent, renderer := s }.postpone
      (pass.touch index tile)
  | (.failed bitmap _, s) =>
    { pass with cache := pass.cache.setSlot index (.ready bitmap), renderer := s }.postpone
      (pass.touch index tile)

lemma draw_eq_settle (pass : TilePass α σ) (index : Nat) (tile : Tile) :
    pass.draw r window deadline index tile =
      pass.settle window index tile
        (r.draw (pass.cache.jobOf index tile) deadline pass.renderer) := by
  rw [draw]
  rcases r.draw (pass.cache.jobOf index tile) deadline pass.renderer with ⟨outcome, s⟩
  cases outcome <;> rfl

lemma settle_mapState (pass : TilePass α σ) (index : Nat) (tile : Tile)
    (answer : DrawOutcome × σ) :
    (pass.mapState f).settle window index tile (answer.1, f answer.2) =
      (pass.settle window index tile answer).mapState f := by
  rcases answer with ⟨outcome, s⟩
  cases outcome <;> rfl

lemma draw_mapState (maps : r.Maps f r') (pass : TilePass α σ) (index : Nat) (tile : Tile) :
    (pass.mapState f).draw r' window deadline index tile =
      (pass.draw r window deadline index tile).mapState f := by
  have answer : r'.draw ((pass.mapState f).cache.jobOf index tile) deadline
      (pass.mapState f).renderer = _ := maps.draw _ deadline pass.renderer
  rw [draw_eq_settle, draw_eq_settle, answer]
  exact settle_mapState pass index tile _

section Equations

variable {pass : TilePass α σ} {index : Nat} {tile : Tile}

lemma visit_missing (none : pass.cache.tiles[index]? = none) :
    pass.visit r window deadline index = pass := by
  rw [visit, none]

lemma visit_shown (found : pass.cache.tiles[index]? = some tile)
    (valid : pass.cache.valid.contains index = true) :
    pass.visit r window deadline index =
      pass.present window (pass.touch index tile) tile.bitmap? := by
  rw [visit, found]
  exact if_pos valid

lemma visit_lent (found : pass.cache.tiles[index]? = some tile)
    (invalid : ¬ pass.cache.valid.contains index = true) (away : tile.isLent = true) :
    pass.visit r window deadline index = pass.postpone (pass.touch index tile) := by
  rw [visit, found]
  exact (if_neg invalid).trans (if_pos away)

lemma visit_home (found : pass.cache.tiles[index]? = some tile)
    (invalid : ¬ pass.cache.valid.contains index = true) (home : ¬ tile.isLent = true) :
    pass.visit r window deadline index =
      let asked := { pass with renderer := (r.now pass.renderer).2 }
      if deadline ≤ (r.now pass.renderer).1 then asked.postpone (pass.touch index tile)
      else asked.draw r window deadline index tile := by
  rw [visit, found]
  exact (if_neg invalid).trans (if_neg home)

end Equations

lemma visit_mapState (maps : r.Maps f r') (pass : TilePass α σ) (index : Nat) :
    (pass.mapState f).visit r' window deadline index =
      (pass.visit r window deadline index).mapState f := by
  have cache : (pass.mapState f).cache = pass.cache := rfl
  have clock : r'.now (pass.mapState f).renderer = _ := maps.now pass.renderer
  cases found : pass.cache.tiles[index]? with
  | none => rw [visit_missing found, visit_missing (cache ▸ found)]
  | some tile =>
      by_cases valid : pass.cache.valid.contains index = true
      · rw [visit_shown found valid, visit_shown (cache ▸ found) (cache ▸ valid)]
        rfl
      by_cases away : tile.isLent = true
      · rw [visit_lent found valid away, visit_lent (cache ▸ found) (cache ▸ valid) away]
        rfl
      rw [visit_home found valid away, visit_home (cache ▸ found) (cache ▸ valid) away, clock]
      dsimp only
      split_ifs
      · rfl
      · exact draw_mapState maps { pass with renderer := (r.now pass.renderer).2 } index tile

end TilePass

namespace PartCache

/-- Renderers with the same answers make for the same pass. -/
theorem sweep_mapState {f : σ → τ} {r : Renderer σ} {r' : Renderer τ} (maps : r.Maps f r')
    (c : PartCache α) (surface : Bitmap) (window : PaintWindow) (dirty : Rect .device)
    (deadline : Nat) (s : σ) :
    c.sweep surface window dirty deadline r' (f s) =
      (c.sweep surface window dirty deadline r s).mapState f := by
  simp only [sweep]
  generalize c.tiling.overlapping dirty = indices
  have same : ∀ pass : TilePass α σ,
      indices.foldl (TilePass.visit r' window deadline) (pass.mapState f) =
        (indices.foldl (TilePass.visit r window deadline) pass).mapState f := by
    induction indices with
    | nil => intro pass; rfl
    | cons index indices ih =>
        intro pass
        rw [List.foldl_cons, List.foldl_cons, TilePass.visit_mapState maps, ih]
  exact same ⟨c, surface, #[], #[], s⟩

end PartCache

/-- The renderer that answers each job in the same way, in no time. -/
def Renderer.constant (answer : DrawJob → DrawOutcome) : Renderer Unit where
  now s := (0, s)
  draw job _ s := (answer job, s)

/-! ## Recording -/

/-- A job's key and what became of the job. -/
abbrev Answer := TileKey × DrawOutcome

/-- The renderer with its answers recorded beside its state, in order. -/
def Renderer.recording (r : Renderer σ) : Renderer (σ × List Answer) where
  now s := ((r.now s.1).1, (r.now s.1).2, s.2)
  draw job deadline s :=
    ((r.draw job deadline s.1).1, (r.draw job deadline s.1).2,
      s.2 ++ [(job.key, (r.draw job deadline s.1).1)])

lemma Renderer.recording_maps (r : Renderer σ) : r.recording.Maps Prod.fst r :=
  ⟨fun _ => rfl, fun _ _ _ => rfl⟩

namespace PartCache

/-- The answers of a renderer during a pass. -/
def recorded (c : PartCache α) (surface : Bitmap) (window : PaintWindow) (dirty : Rect .device)
    (deadline : Nat) (renderer : Renderer σ) (s : σ) : List Answer :=
  (c.sweep surface window dirty deadline renderer.recording (s, [])).renderer.2

/-- Recording changes nothing about the cache. -/
lemma cache_sweep_recording (c : PartCache α) (surface : Bitmap) (window : PaintWindow)
    (dirty : Rect .device) (deadline : Nat) (renderer : Renderer σ) (s : σ) :
    (c.sweep surface window dirty deadline renderer.recording (s, [])).cache =
      (c.sweep surface window dirty deadline renderer s).cache := by
  have same := c.sweep_mapState renderer.recording_maps surface window dirty deadline (s, [])
  exact (congrArg TilePass.cache same).symm

/-- What a renderer never answers is not recorded. -/
lemma forall_recorded {ok : TileKey → DrawOutcome → Prop} {c : PartCache α} {renderer : Renderer σ}
    (draws : ∀ job deadline s, ok job.key (renderer.draw job deadline s).1) (surface : Bitmap)
    (window : PaintWindow) (dirty : Rect .device) (deadline : Nat) (s : σ) :
    ∀ answer ∈ c.recorded surface window dirty deadline renderer s, ok answer.1 answer.2 := by
  refine sweep_rec (P := fun pass : TilePass α (σ × List Answer) =>
    ∀ answer ∈ pass.renderer.2, ok answer.1 answer.2) c surface dirty (s, [])
    (fun _ mem => absurd mem List.not_mem_nil) ?_
  intro pass index pass' visited ih
  cases visited with
  | missing | shown | lent | late => exact ih
  | drawn | deferred | failed =>
      intro answer mem
      rcases List.mem_append.1 mem with old | new
      · exact ih answer old
      · rw [List.mem_singleton.1 new]
        exact draws _ _ _

end PartCache

end TiledView
