import TiledView.Proofs.Cache.History

/-!
# Caches that were replaced

Parts go from the end and come back at the same place, and a cache of another scale or size is
replaced where it stands.  So one part and one tile index belong to many part caches in the course
of a run, and only the generation tells these apart.

**Lineage.**  `CacheHistory.built` lists every part cache that a run has built, whether or not it is
still there.  Their generations count up from one, and whatever is there is one of them, evolved
(`DocumentCache.Lineage`).

**Late results.**  An action that drops or replaces the cache of a key leaves the key behind for
good (`DocumentCache.Gone`): no cache has its generation any more, and none that is built later gets
it.

`CacheHistory.replaced_inert` puts the two together, with what `DocumentCache.fit` keeps and what it
builds.  Late results need not answer a job of the run; any key may be handed in.
-/

namespace TiledView

/-- Nothing has been drawn in a cache, and no tile of it was invalidated. -/
structure PartCache.Blank {α : Type} (c : PartCache α) : Prop where
  invalid : ∀ index, c.valid.contains index = false
  empty : ∀ (index : Nat) (tile : Tile), c.tiles[index]? = some tile →
    tile.slot = .empty ∧ tile.epoch = 0

lemma PartCache.blank_build {α : Type} [Arithmetic α] (part : Nat) (scale : Scale α)
    (documentSize : Size .twips) (tileEdge generation : Nat) :
    (PartCache.build part scale documentSize tileEdge generation).Blank where
  invalid := TileSet.contains_noneOf _
  empty := by
    intro index tile found
    rw [build, Array.getElem?_map] at found
    obtain ⟨i, -, rfl⟩ := Option.map_eq_some_iff.1 found
    exact ⟨rfl, rfl⟩

/-- A result for another cache changes nothing. -/
lemma PartCache.takeBack_of_generation_ne {α : Type} {c : PartCache α} {key : TileKey}
    (apart : key.generation ≠ c.generation) (outcome : DrawOutcome) :
    c.takeBack key outcome = (none, c) := by
  rw [takeBack]
  split
  · rfl
  · exact if_neg fun same => apart same.1

namespace DocumentCache

variable {d : DocumentCache} {action : CacheAction} {scale : ViewScale}
  {documentSize : Size .twips} {built : List (PartCache Float)} {key : TileKey}

/-! ## The caches that an action builds -/

/-- The cache that `fitPart` builds for a part, if the part needs one. -/
def newPart? (scale : ViewScale) (documentSize : Size .twips) (d : DocumentCache) (part : Nat) :
    Option (PartCache Float) :=
  match d.parts[part]? with
  | some cache =>
    if cache.scale != scale || cache.documentSize != documentSize then
      some (d.build part scale documentSize)
    else
      none
  | none => some (d.build part scale documentSize)

/-- Fitting a part leaves everything as it is, or puts a cache of the next generation in. -/
lemma newPart?_eq (d : DocumentCache) (scale : ViewScale) (documentSize : Size .twips)
    (part : Nat) :
    (d.newPart? scale documentSize part = none ∧ d.fitPart scale documentSize part = d) ∨
    d.newPart? scale documentSize part = some (d.build part scale documentSize) ∧
      (d.fitPart scale documentSize part).nextGeneration = d.nextGeneration + 1 ∧
      ∀ (other : Nat) (c : PartCache Float),
        (d.fitPart scale documentSize part).parts[other]? = some c →
          d.parts[other]? = some c ∨ c = d.build part scale documentSize := by
  cases found : d.parts[part]? with
  | none =>
      simp only [newPart?, fitPart, found]
      refine .inr ⟨trivial, trivial, ?_⟩
      intro other c hc
      rw [Array.getElem?_push] at hc
      split_ifs at hc
      · exact .inr (Option.some.inj hc).symm
      · exact .inl hc
  | some cache =>
      simp only [newPart?, fitPart, found]
      split_ifs with stale
      · refine .inr ⟨rfl, rfl, ?_⟩
        intro other c hc
        dsimp only [setPart] at hc
        rw [Array.getElem?_setIfInBounds] at hc
        split_ifs at hc
        · exact .inr (Option.some.inj hc).symm
        · exact .inl hc
      · exact .inl ⟨rfl, rfl⟩

/-- The caches that are built when some parts are fitted, one after the other. -/
def builtAlong (scale : ViewScale) (documentSize : Size .twips) :
    DocumentCache → List Nat → List (PartCache Float)
  | _, [] => []
  | d, part :: parts =>
    (d.newPart? scale documentSize part).toList ++
      builtAlong scale documentSize (d.fitPart scale documentSize part) parts

/-- The part caches that an action builds, oldest first. -/
def builtBy (d : DocumentCache) : CacheAction → List (PartCache Float)
  | .fit count scale documentSize =>
    builtAlong scale documentSize { d with parts := d.parts.take count } (List.range count)
  | _ => []

/-- A document cache and all part caches that were ever built for it: these are numbered from one,
and no others are there. -/
structure Lineage (d : DocumentCache) (built : List (PartCache Float)) : Prop where
  generations : built.map (·.generation) = List.range' 1 built.length
  next : d.nextGeneration = built.length + 1
  present : ∀ (part : Nat) (c : PartCache Float), d.parts[part]? = some c → c.outline ∈ built

namespace Lineage

lemma ofTileEdge (tileEdge : Nat) : Lineage (ofTileEdge tileEdge) [] where
  generations := rfl
  next := rfl
  present := fun part c found => absurd found (by simp [DocumentCache.ofTileEdge])

lemma nodup (h : Lineage d built) : (built.map (·.generation)).Nodup := by
  rw [h.generations]
  exact List.nodup_range'

/-- Whatever has been built has a generation that was given out. -/
lemma generation_lt (h : Lineage d built) {c : PartCache Float} (mem : c ∈ built) :
    c.generation < d.nextGeneration := by
  have numbered : c.generation ∈ List.range' 1 built.length := by
    rw [← h.generations]
    exact List.mem_map_of_mem mem
  have bound := (List.mem_range'_1.1 numbered).2
  rw [h.next]
  omega

/-- Parts that stay, or evolve, add nothing. -/
lemma keep (h : Lineage d built) {e : DocumentCache} (next : e.nextGeneration = d.nextGeneration)
    (parts : ∀ (part : Nat) (c' : PartCache Float), e.parts[part]? = some c' →
      ∃ (other : Nat) (c : PartCache Float), d.parts[other]? = some c ∧ c'.outline = c.outline) :
    Lineage e built where
  generations := h.generations
  next := next.trans h.next
  present := by
    intro part c' found
    obtain ⟨other, c, old, same⟩ := parts part c' found
    exact same ▸ h.present other c old

/-- One cache is built, of the next generation. -/
lemma build (h : Lineage d built) {e : DocumentCache} {part : Nat}
    (next : e.nextGeneration = d.nextGeneration + 1)
    (parts : ∀ (other : Nat) (c : PartCache Float), e.parts[other]? = some c →
      d.parts[other]? = some c ∨ c = d.build part scale documentSize) :
    Lineage e (built ++ [d.build part scale documentSize]) where
  generations := by
    have generation : (d.build part scale documentSize).generation = 1 + built.length := by
      rw [Nat.add_comm, ← h.next]
      rfl
    rw [List.map_append, h.generations, List.map_singleton, generation, List.length_append,
      List.length_singleton, ← List.range'_1_concat]
  next := by rw [next, h.next, List.length_append, List.length_singleton]
  present := by
    intro other c found
    rcases parts other c found with old | rfl
    · exact List.mem_append_left _ (h.present other c old)
    · refine List.mem_append_right _ (List.mem_singleton.2 ?_)
      rw [DocumentCache.build, PartCache.outline_build]

lemma fitPart (h : Lineage d built) (scale : ViewScale) (documentSize : Size .twips) (part : Nat) :
    Lineage (d.fitPart scale documentSize part)
      (built ++ (d.newPart? scale documentSize part).toList) := by
  rcases newPart?_eq d scale documentSize part with ⟨none, same⟩ | ⟨new, next, parts⟩
  · rw [none, same, Option.toList_none, List.append_nil]
    exact h
  · rw [new]
    exact h.build next parts

lemma builtAlong (h : Lineage d built) (parts : List Nat) :
    Lineage (parts.foldl (DocumentCache.fitPart scale documentSize) d)
      (built ++ d.builtAlong scale documentSize parts) := by
  induction parts generalizing d built with
  | nil => rwa [DocumentCache.builtAlong, List.append_nil]
  | cons part parts ih =>
      rw [List.foldl_cons, DocumentCache.builtAlong, ← List.append_assoc]
      exact ih (h.fitPart scale documentSize part)

/-- **What an action builds is added to what was built.** -/
lemma act (h : Lineage d built) (inPlace : d.InPlace) (action : CacheAction) :
    Lineage (d.act action) (built ++ d.builtBy action) := by
  -- Apart from fitting, an action gives no generation out, so it can only have parts evolve.
  have evolved : (d.act action).nextGeneration = d.nextGeneration →
      Lineage (d.act action) (built ++ []) := by
    intro next
    rw [List.append_nil]
    refine h.keep next ?_
    intro part c' found
    cases act_part inPlace found with
    | evolved c old evolves => exact ⟨part, c, old, evolves.outline⟩
    | built scale documentSize generation fresh below new => omega
  cases action with
  | fit count scale documentSize =>
      refine Lineage.builtAlong (h.keep (e := { d with parts := d.parts.take count }) rfl ?_) _
      intro part c found
      rw [Array.getElem?_extract] at found
      split_ifs at found
      rw [Nat.zero_add] at found
      exact ⟨part, c, found, rfl⟩
  | late key outcome => exact evolved (outline_fields (outline_takeBack key outcome)).2
  | clear | staleAll | stalePart | staleArea | paint => exact evolved rfl

end Lineage

/-! ## Keys whose cache is gone -/

/-- Whether an action drops or replaces the cache of a part. -/
def Replaces (d : DocumentCache) (part : Nat) : CacheAction → Prop
  | .fit count scale documentSize =>
    ¬ (part < count ∧ ∃ c, d.parts[part]? = some c ∧ keeps scale documentSize c)
  | .clear => True
  | _ => False

/-- No cache has the generation of `key`, nor will any cache that is built get it. -/
structure Gone (d : DocumentCache) (key : TileKey) : Prop where
  given : key.generation < d.nextGeneration
  absent : ∀ c, d.parts[key.part]? = some c → c.generation ≠ key.generation

/-- Whatever is built for the part of a key once the key was dispatched, is not the cache of the
key. -/
lemma gone_of_replaces (given : key.generation < d.nextGeneration)
    (replaces : d.Replaces key.part action) : (d.act action).Gone key := by
  refine ⟨Nat.lt_of_lt_of_le given nextGeneration_le_act, ?_⟩
  intro c found
  cases action with
  | fit count scale documentSize =>
      obtain ⟨-, size, -, fitted⟩ := fit_spec d count scale documentSize
      have hpart : key.part < count := by
        rw [← size]
        exact (Array.getElem?_eq_some_iff.1 found).1
      obtain ⟨c', found', hc'⟩ := fitted key.part hpart
      obtain rfl : c' = c := Option.some.inj (found'.symm.trans found)
      cases hc' with
      | kept c old keeps => exact absurd ⟨hpart, c', old, keeps⟩ replaces
      | built generation fresh stale =>
          have same : (PartCache.build key.part scale documentSize d.tileEdge
            generation).generation = generation := rfl
          omega
  | clear => exact absurd found (by simp [act, clear])
  | staleAll | stalePart | staleArea | paint | late => exact replaces.elim

/-- **A key whose cache is gone stays behind.** -/
lemma Gone.act (h : d.Gone key) (inPlace : d.InPlace) : (d.act action).Gone key := by
  refine ⟨Nat.lt_of_lt_of_le h.given nextGeneration_le_act, ?_⟩
  intro c' found' same
  cases act_part inPlace found' with
  | evolved c found evolves =>
      exact h.absent c found ((PartCache.outline_fields evolves.outline).2.2.1.symm.trans same)
  | built scale documentSize generation fresh below new =>
      have generation_eq : c'.generation = generation := congrArg PartCache.generation new
      have given := h.given
      omega

/-- Putting a cache where it is already. -/
lemma setPart_of_getElem? {part : Nat} {c : PartCache Float} (found : d.parts[part]? = some c) :
    d.setPart part c = d := by
  have same : d.parts.setIfInBounds part c = d.parts := by
    refine Array.ext_getElem? fun other => ?_
    rw [Array.getElem?_setIfInBounds]
    split_ifs with here inside
    · rw [← here, found]
    · exact absurd (Array.getElem?_eq_some_iff.1 found).1 (here ▸ inside)
    · rfl
  rw [setPart, same]

/-- A result for a cache that is gone changes nothing. -/
lemma Gone.takeBack (h : d.Gone key) (outcome : DrawOutcome) :
    d.takeBack key outcome = (none, d) := by
  rw [DocumentCache.takeBack]
  split
  · rfl
  · next c found =>
    rw [PartCache.takeBack_of_generation_ne (h.absent c found).symm]
    exact congrArg (Prod.mk none) (setPart_of_getElem? found)

/-! ## What fitting leaves behind -/

/-- The cache `c` of a part after `d` was fitted: it suits, and it is the one that was there before
or, where that one could not stay, a new one. -/
structure Refitted (d : DocumentCache) (count : Nat) (scale : ViewScale)
    (documentSize : Size .twips) (part : Nat) (c : PartCache Float) : Prop where
  part_eq : c.part = part
  suits : keeps scale documentSize c
  origin : d.parts[part]? = some c ∨
    (¬ ∃ old, d.parts[part]? = some old ∧ keeps scale documentSize old) ∧
      c ∈ d.builtBy (.fit count scale documentSize) ∧ c.Blank

/-- **Fitting leaves a suitable cache for every part**, provided that the scale equals itself, as
one that is not a number does not. -/
lemma Lineage.refitted (h : Lineage d built) (inPlace : d.InPlace) (count : Nat)
    (self : (scale == scale) = true) (documentSize : Size .twips) :
    (d.fit count scale documentSize).parts.size = count ∧
    ∀ part < count, ∃ c, (d.fit count scale documentSize).parts[part]? = some c ∧
      d.Refitted count scale documentSize part c := by
  obtain ⟨-, size, -, fitted⟩ := fit_spec d count scale documentSize
  refine ⟨size, fun part hpart => ?_⟩
  obtain ⟨c, found, hc⟩ := fitted part hpart
  refine ⟨c, found, ?_⟩
  cases hc with
  | kept c old keeps => exact ⟨inPlace part c old, keeps, .inl old⟩
  | built generation fresh stale =>
      refine ⟨rfl, ⟨self, rfl⟩, .inr ⟨?_, ?_, PartCache.blank_build _ _ _ _ _⟩⟩
      · rintro ⟨old, hold, keeps⟩
        exact stale old hold keeps
      · -- The new cache is one of those that were ever built, and its generation is too high for
        -- those before.
        have lineage := h.act inPlace (.fit count scale documentSize)
        have mem := lineage.present part _ found
        rw [PartCache.outline_build] at mem
        rcases List.mem_append.1 mem with earlier | new
        · exact absurd (h.generation_lt earlier) (Nat.not_lt.2 fresh.1)
        · exact new

end DocumentCache

/-! ## Runs -/

namespace CacheHistory

open DocumentCache

variable {h : CacheHistory} {tileEdge : Nat} {actions : List CacheAction} {key : TileKey}
  {earlier : List (PartCache Float)}

/-- The part caches that some actions build, oldest first. -/
def builtFrom : DocumentCache → List CacheAction → List (PartCache Float)
  | _, [] => []
  | d, action :: actions => d.builtBy action ++ builtFrom (d.act action) actions

/-- The part caches that a run builds, oldest first. -/
def built (tileEdge : Nat) (actions : List CacheAction) : List (PartCache Float) :=
  builtFrom (.ofTileEdge tileEdge) actions

/-- Part caches stand at their places, and jobs are of generations that were given out.  Unlike
`Invariant`, this holds whatever results are handed in. -/
structure Placed (h : CacheHistory) : Prop where
  sound : h.cache.Sound fun _ _ => True
  given : ∀ key ∈ h.jobs, key.generation < h.cache.nextGeneration

lemma placed_start (tileEdge : Nat) : (start tileEdge).Placed where
  sound := sound_ofTileEdge tileEdge
  given := fun _ mem => absurd mem List.not_mem_nil

lemma Placed.next (placed : h.Placed) (action : CacheAction) : (h.next action).Placed where
  sound := placed.sound.act fun _ _ _ => trivial
  given := by
    intro key mem
    rcases List.mem_append.1 mem with old | new
    · exact Nat.lt_of_lt_of_le (placed.given key old) nextGeneration_le_act
    · obtain ⟨answer, dispatched, rfl⟩ := List.mem_map.1 new
      exact (behind_of_mem_dispatched placed.sound dispatched).1

lemma Placed.foldl (placed : h.Placed) (actions : List CacheAction) :
    (actions.foldl CacheHistory.next h).Placed :=
  List.foldlRecOn actions CacheHistory.next placed fun _ placed action _ => placed.next action

lemma placed_of (tileEdge : Nat) (actions : List CacheAction) : (of tileEdge actions).Placed :=
  (placed_start tileEdge).foldl actions

lemma Placed.lineage_foldl (placed : h.Placed) (lineage : Lineage h.cache earlier) :
    Lineage (actions.foldl CacheHistory.next h).cache (earlier ++ builtFrom h.cache actions) := by
  induction actions generalizing h earlier with
  | nil => rwa [builtFrom, List.append_nil]
  | cons action actions ih =>
      rw [List.foldl_cons, builtFrom, ← List.append_assoc]
      exact ih (placed.next action) (lineage.act placed.sound.inPlace action)

lemma lineage_of (tileEdge : Nat) (actions : List CacheAction) :
    Lineage (of tileEdge actions).cache (built tileEdge actions) :=
  (placed_start tileEdge).lineage_foldl (Lineage.ofTileEdge tileEdge)

lemma Placed.gone_foldl (placed : h.Placed) (gone : h.cache.Gone key) :
    (actions.foldl CacheHistory.next h).cache.Gone key := by
  induction actions generalizing h with
  | nil => exact gone
  | cons action actions ih => exact ih (placed.next action) (gone.act placed.sound.inPlace)

/-- A key whose cache was dropped or replaced at any time after its dispatch is gone ever after. -/
lemma gone_of {before after : List CacheAction} {action : CacheAction}
    (job : key ∈ (of tileEdge before).jobs)
    (replaces : (of tileEdge before).cache.Replaces key.part action) :
    (of tileEdge (before ++ action :: after)).cache.Gone key := by
  have placed := placed_of tileEdge before
  rw [of, List.foldl_append]
  exact (placed.next action).gone_foldl (gone_of_replaces (placed.given key job) replaces)

/-- **Late results for caches that were replaced are inert.**  Along every run, whatever results are
handed in, no two part caches that were ever built have the same generation, and those that are
there are among them, evolved.  The result of a job changes nothing, once the cache that the job
was dispatched from has been dropped or replaced.  Fitting leaves a suitable cache for every part:
the one that was there, untouched, or a new one. -/
theorem replaced_inert (tileEdge : Nat) (actions : List CacheAction) :
    let d := (of tileEdge actions).cache
    ((built tileEdge actions).map (·.generation)).Nodup ∧
    (∀ (part : Nat) (c : PartCache Float), d.parts[part]? = some c →
      c.outline ∈ built tileEdge actions) ∧
    (∀ before action after key outcome, actions = before ++ action :: after →
      key ∈ (of tileEdge before).jobs → (of tileEdge before).cache.Replaces key.part action →
        d.takeBack key outcome = (none, d)) ∧
    ∀ (count : Nat) (scale : ViewScale) (documentSize : Size .twips), (scale == scale) = true →
      (d.fit count scale documentSize).parts.size = count ∧
      ∀ part < count, ∃ c, (d.fit count scale documentSize).parts[part]? = some c ∧
        d.Refitted count scale documentSize part c := by
  have lineage := lineage_of tileEdge actions
  refine ⟨lineage.nodup, lineage.present, ?_, ?_⟩
  · rintro before action after key outcome rfl job replaces
    exact (gone_of job replaces).takeBack outcome
  · intro count scale documentSize self
    exact lineage.refitted (placed_of tileEdge actions).sound.inPlace count self documentSize

/-- Of two parts the second goes while a tile of it is drawn, and comes back as it was. -/
def droppedAndBack : List CacheAction :=
  let two : CacheAction := .fit 2 .identity ⟨15, 15⟩
  let paint : CacheAction := .paint 1 .empty ⟨.zero, .empty⟩ ⟨0, 0, 1, 1⟩ 1
    (Renderer.constant fun _ => .deferred) ()
  [two, paint, .fit 1 .identity ⟨15, 15⟩, two, paint]

/-- The tile of the new second part waits for its own result, not for that of the old one. -/
theorem replaced_inert_droppedAndBack :
    let before := droppedAndBack.take 2
    let key : TileKey := ⟨2, 1, 0, 0⟩
    let d := (of 256 droppedAndBack).cache
    key ∈ (of 256 before).jobs ∧
    (of 256 before).cache.Replaces key.part (.fit 1 .identity ⟨15, 15⟩) ∧
    d.parts[1]?.map (fun c => (c.generation, c.tiles.map Tile.isLent)) = some (3, #[true]) ∧
    d.takeBack key (.drawn (.filled 1 1 7)) = (none, d) ∧
    (d.fit 2 .identity ⟨15, 15⟩).parts.size = 2 := by
  have job : (⟨2, 1, 0, 0⟩ : TileKey) ∈ (of 256 (droppedAndBack.take 2)).jobs := by decide +kernel
  have replaces : (of 256 (droppedAndBack.take 2)).cache.Replaces 1 (.fit 1 .identity ⟨15, 15⟩) :=
    fun stays => absurd stays.1 (by decide)
  obtain ⟨-, -, inert, refits⟩ := replaced_inert 256 droppedAndBack
  refine ⟨job, replaces, by decide +kernel, ?_, ?_⟩
  · exact inert (droppedAndBack.take 2) _ _ _ _ rfl job replaces
  · exact (refits 2 .identity ⟨15, 15⟩ (by decide +kernel)).1

end CacheHistory

end TiledView
