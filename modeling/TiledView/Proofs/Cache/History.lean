import TiledView.Proofs.Cache.Action

/-!
# No stale tile is ever valid

A `CacheHistory` is a document cache together with what led to it: the keys of all jobs that were
dispatched, and all answers that came back, at once or late.  Actions come in any order, renderers
answer as they like, and a late result may be delivered any number of times and long after its
pass.  The one condition is that it answers a job that was dispatched (`CacheHistory.Proper`).

`CacheHistory.valid_tile_current` says what a valid tile then shows: a bitmap that came back as
drawn for the tile's present key.  A job with this key was dispatched at some time, and no action
after that time can have outdated the tile, or the key would lag behind (`DocumentCache.Behind`).
-/

namespace TiledView

/-- A document cache and what has led to it. -/
structure CacheHistory where
  cache : DocumentCache
  /-- Keys of the jobs dispatched so far. -/
  jobs : List TileKey
  /-- The answers that came back so far. -/
  answers : List Answer

namespace CacheHistory

/-- Nothing has happened yet. -/
def start (tileEdge : Nat) : CacheHistory := ⟨.ofTileEdge tileEdge, [], []⟩

def next (h : CacheHistory) (action : CacheAction) : CacheHistory where
  cache := h.cache.act action
  jobs := h.jobs ++ (h.cache.dispatched action).map Prod.fst
  answers := h.answers ++ h.cache.answered action

/-- What `actions` lead to, one after the other. -/
def of (tileEdge : Nat) (actions : List CacheAction) : CacheHistory :=
  actions.foldl next (start tileEdge)

/-- Late results answer jobs that were dispatched before. -/
def Proper (h : CacheHistory) : List CacheAction → Prop
  | [] => True
  | action :: actions =>
    (∀ answer ∈ action.returned, answer.1 ∈ h.jobs) ∧ Proper (h.next action) actions

instance decidableProper : (h : CacheHistory) → (actions : List CacheAction) →
    Decidable (h.Proper actions)
  | _, [] => inferInstanceAs (Decidable True)
  | h, action :: actions =>
    have := decidableProper (h.next action) actions
    inferInstanceAs (Decidable (_ ∧ _))

variable {h : CacheHistory} {tileEdge : Nat} {actions : List CacheAction}

lemma Proper.of_append {before after : List CacheAction} (proper : h.Proper (before ++ after)) :
    h.Proper before := by
  induction before generalizing h with
  | nil => trivial
  | cons action before ih => exact ⟨proper.1, ih proper.2⟩

lemma Proper.drop {before after : List CacheAction} (proper : h.Proper (before ++ after)) :
    (before.foldl next h).Proper after := by
  induction before generalizing h with
  | nil => exact proper
  | cons action before ih => exact ih proper.2

/-! ## What every history satisfies -/

/-- The caches are sound, where everything that came back as drawn counts as backing; jobs are not
ahead of the cache; and whatever came back, had been dispatched. -/
structure Invariant (h : CacheHistory) : Prop where
  sound : h.cache.Sound fun key bitmap => (key, .drawn bitmap) ∈ h.answers
  jobs : ∀ key ∈ h.jobs, h.cache.Behind 0 key
  answers : ∀ answer ∈ h.answers, answer.1 ∈ h.jobs

lemma Invariant.next {action : CacheAction} (inv : h.Invariant)
    (late : ∀ answer ∈ action.returned, answer.1 ∈ h.jobs) : (h.next action).Invariant where
  sound := by
    refine (inv.sound.mono ?_).act ?_
    · intro key bitmap old
      exact List.mem_append_left _ old
    · intro key bitmap new
      exact List.mem_append_right _ new
  jobs := by
    intro key mem
    rcases List.mem_append.1 mem with old | new
    · exact (inv.jobs key old).act inv.sound.inPlace
    · obtain ⟨answer, dispatched, rfl⟩ := List.mem_map.1 new
      exact DocumentCache.behind_of_mem_dispatched inv.sound dispatched
  answers := by
    intro answer mem
    rcases List.mem_append.1 mem with old | new
    · exact List.mem_append_left _ (inv.answers answer old)
    · rcases List.mem_append.1 new with dispatched | returned
      · exact List.mem_append_right _ (List.mem_map_of_mem dispatched)
      · exact List.mem_append_left _ (late answer returned)

lemma invariant_start (tileEdge : Nat) : (start tileEdge).Invariant where
  sound := DocumentCache.sound_ofTileEdge tileEdge
  jobs := fun _ mem => absurd mem List.not_mem_nil
  answers := fun _ mem => absurd mem List.not_mem_nil

lemma Invariant.foldl (inv : h.Invariant) (proper : h.Proper actions) :
    (actions.foldl CacheHistory.next h).Invariant := by
  induction actions generalizing h with
  | nil => exact inv
  | cons action actions ih => exact ih (inv.next proper.1) proper.2

theorem invariant_of (proper : (start tileEdge).Proper actions) : (of tileEdge actions).Invariant :=
  (invariant_start tileEdge).foldl proper

/-! ## Lagging keys -/

lemma Invariant.behind_foldl {key : TileKey} {n : Nat} (inv : h.Invariant)
    (proper : h.Proper actions) (behind : h.cache.Behind n key) :
    (actions.foldl CacheHistory.next h).cache.Behind n key := by
  induction actions generalizing h with
  | nil => exact behind
  | cons action actions ih =>
      exact ih (inv.next proper.1) proper.2 (behind.act inv.sound.inPlace)

/-- A key whose tile was outdated at any time lags behind ever after. -/
lemma behind_of_outdated {before after : List CacheAction} {action : CacheAction} {key : TileKey}
    (proper : (start tileEdge).Proper (before ++ action :: after))
    (job : key ∈ (of tileEdge before).jobs)
    (outdates : (of tileEdge before).cache.Outdates key.part key.index action) :
    (of tileEdge (before ++ action :: after)).cache.Behind 1 key := by
  have inv := invariant_of proper.of_append
  have behind := (inv.jobs key job).outdate inv.sound.inPlace outdates
  have rest := proper.drop
  rw [of, List.foldl_append]
  exact (inv.next rest.1).behind_foldl rest.2 behind

/-- **No stale tile is ever valid.**  A valid tile holds a bitmap that came back as drawn for a job
whose key is the tile's present one, and nothing has outdated the tile since a job with this key was
dispatched. -/
theorem valid_tile_current (proper : (start tileEdge).Proper actions) {part index : Nat}
    {c : PartCache Float} (found : (of tileEdge actions).cache.parts[part]? = some c)
    (valid : c.valid.contains index = true) :
    ∃ tile bitmap, c.tiles[index]? = some tile ∧ tile.slot = .ready bitmap ∧ c.part = part ∧
      let key : TileKey := ⟨c.generation, part, index, tile.epoch⟩
      (key, .drawn bitmap) ∈ (of tileEdge actions).answers ∧ key ∈ (of tileEdge actions).jobs ∧
      ∀ before action after, actions = before ++ action :: after →
        key ∈ (of tileEdge before).jobs →
          ¬ (of tileEdge before).cache.Outdates part index action := by
  have inv := invariant_of proper
  have sound := inv.sound part c found
  obtain ⟨tile, bitmap, htile, ready, drawn⟩ := sound.backed index valid
  rw [PartCache.keyOf, sound.part_eq] at drawn
  refine ⟨tile, bitmap, htile, ready, sound.part_eq, drawn, inv.answers _ drawn, ?_⟩
  rintro before action after rfl job outdates
  have behind := behind_of_outdated proper job outdates
  have lag : tile.epoch + 1 ≤ tile.epoch := behind.2 c found rfl tile htile
  omega

/-- A tile is invalidated while a job draws it.  The job comes back too late and a second one in
time. -/
def overtaken : List CacheAction :=
  let paint : CacheAction := .paint 0 .empty ⟨.zero, .empty⟩ ⟨0, 0, 1, 1⟩ 1
    (Renderer.constant fun _ => .deferred) ()
  [.fit 1 .identity ⟨15, 15⟩, paint, .stalePart 0, .late ⟨1, 0, 0, 0⟩ (.drawn (.filled 1 1 7)),
    paint, .late ⟨1, 0, 0, 1⟩ (.drawn (.filled 1 1 8))]

theorem valid_tile_current_overtaken :
    (start 256).Proper overtaken ∧ ∃ c, (of 256 overtaken).cache.parts[0]? = some c ∧
      c.valid.contains 0 = true ∧ ∃ tile bitmap, c.tiles[0]? = some tile ∧
        tile.slot = .ready bitmap ∧ c.part = 0 ∧
        let key : TileKey := ⟨c.generation, 0, 0, tile.epoch⟩
        (key, .drawn bitmap) ∈ (of 256 overtaken).answers ∧ key ∈ (of 256 overtaken).jobs ∧
        ∀ before action after, overtaken = before ++ action :: after →
          key ∈ (of 256 before).jobs → ¬ (of 256 before).cache.Outdates 0 0 action := by
  have proper : (start 256).Proper overtaken := by decide +kernel
  have shown : ((of 256 overtaken).cache.parts[0]?.any fun c => c.valid.contains 0) = true := by
    decide +kernel
  obtain ⟨c, found, valid⟩ := (Option.any_eq_true _ _).1 shown
  exact ⟨proper, c, found, valid, valid_tile_current proper found valid⟩

end CacheHistory

end TiledView
