import TiledView.Proofs.Cache.Lending
import TiledView.Proofs.Paint.Reachable

/-!
# Painting keeps the books

A renderer that keeps books (`SubmittingRenderer.Books`) has in its state the keys of the jobs that
it was given and has put off.  A paint pass with such a renderer lends a bitmap exactly when a key
is added, so it keeps every `DocumentCache.Ledger` (`Painter.books_paint`).

Requests arrive before the pass and during it.  Of the late results among them only those are
allowed that the ledger can do with, for they come from somebody who does not have the books.
-/

namespace TiledView

variable {σ : Type} {ok : TileKey → DrawOutcome → Prop}

/-- A request that delivers no drawing. -/
def PaintRequest.IsQuiet (request : PaintRequest) : Prop := request.Delivers fun _ _ => False

/-- Nothing at all is restricted. -/
lemma PaintRequest.delivers_true (request : PaintRequest) :
    request.Delivers fun _ _ => True := by
  cases request <;> trivial

lemma PaintRequest.IsQuiet.delivers {request : PaintRequest} (quiet : request.IsQuiet) :
    request.Delivers ok := by
  cases request with
  | lateResult => exact quiet.elim
  | _ => trivial

/-- `keys` reads off a renderer's state which jobs were put off. -/
structure SubmittingRenderer.Books (r : SubmittingRenderer σ) (keys : σ → List TileKey) :
    Prop where
  now : ∀ s, keys (r.now s).2 = keys s
  deferred : ∀ job deadline s, (r.draw job deadline s).1.1 = .deferred →
    keys (r.draw job deadline s).2 = keys s ++ [job.key]
  answered : ∀ job deadline s, (r.draw job deadline s).1.1 ≠ .deferred →
    keys (r.draw job deadline s).2 = keys s

section Passes

variable {P : DocumentCache → List TileKey → Prop} {renderer : SubmittingRenderer σ}
  {keys : σ → List TileKey} {d : DocumentCache} {part : Nat} {c : PartCache Float}

/-- What a pass over the cache `c` of a part keeps: the outline, and the books. -/
structure KeepsBooks (P : DocumentCache → List TileKey → Prop) (d : DocumentCache) (part : Nat)
    (c c' : PartCache Float) (owed : List TileKey) : Prop where
  outline : c'.outline = c.outline
  books : P (d.setPart part c') owed

lemma DocumentCache.setPart_setPart (d : DocumentCache) (part : Nat) (c c' : PartCache Float) :
    (d.setPart part c).setPart part c' = d.setPart part c' := by
  rw [setPart, setPart, Array.setIfInBounds_setIfInBounds]
  rfl

namespace KeepsBooks

variable {c' c'' : PartCache Float} {owed : List TileKey}

/-- A change of the cache that lends nothing. -/
lemma step (ledger : DocumentCache.Ledger ok P) (h : KeepsBooks P d part c c' owed)
    (found : d.parts[part]? = some c) (outline : c''.outline = c'.outline)
    (raises : ∀ index, PartCache.Raises 0 index c' c'')
    (lent : ∀ index, c''.lent? index = c'.lent? index) : KeepsBooks P d part c c'' owed := by
  refine ⟨outline.trans h.outline, ?_⟩
  rw [← d.setPart_setPart part c' c'']
  exact ledger.carry h.books
    (.setPart (DocumentCache.getElem?_setPart_self found) outline raises lent)

/-- A job that is put off. -/
lemma lend (ledger : DocumentCache.Ledger ok P) (h : KeepsBooks P d part c c' owed)
    (found : d.parts[part]? = some c) (inPlace : d.InPlace)
    (generation : c.generation < d.nextGeneration) {index : Nat} {tile : Tile}
    (htile : c'.tiles[index]? = some tile) (home : tile.isLent = false) :
    KeepsBooks P d part c (c'.setSlot index .lent) (owed ++ [c'.keyOf index tile]) := by
  refine ⟨(c'.outline_setSlot index .lent).trans h.outline, ?_⟩
  rw [← d.setPart_setPart part c' (c'.setSlot index .lent)]
  refine ledger.lend h.books (DocumentCache.InPlace.setPart inPlace found h.outline)
    (DocumentCache.getElem?_setPart_self found) ?_ htile home
  rw [(PartCache.outline_fields h.outline).2.2.1]
  exact generation

end KeepsBooks

section Ledger

variable (ledger : DocumentCache.Ledger ok P)

include ledger

/-- **A visit of a tile keeps the books.** -/
lemma keepsBooks_visited (books : renderer.Books keys) (found : d.parts[part]? = some c)
    (inPlace : d.InPlace) (generation : c.generation < d.nextGeneration) {window : PaintWindow}
    {deadline index : Nat} {pass pass' : TilePass Float (σ × List PaintRequest)}
    (visited : TilePass.Visited renderer.collecting window deadline pass index pass')
    (h : KeepsBooks P d part c pass.cache (keys pass.renderer.1)) :
    KeepsBooks P d part c pass'.cache (keys pass'.renderer.1) := by
  have clock : keys (TilePass.asked renderer.collecting pass).1 = keys pass.renderer.1 :=
    books.now pass.renderer.1
  have answered : ∀ tile, (TilePass.answer renderer.collecting deadline pass index tile).1 ≠
      .deferred → keys (TilePass.answer renderer.collecting deadline pass index tile).2.1 =
        keys pass.renderer.1 :=
    fun tile drew => (books.answered _ deadline _ drew).trans clock
  cases visited with
  | missing | shown | lent => exact h
  | late => exact clock.symm ▸ h
  | drawn tile bitmap asks drew =>
      have same := answered tile (by rw [drew]; exact DrawOutcome.noConfusion)
      refine same.symm ▸ h.step ledger found ?_ (fun i => PartCache.Raises.takeIn i index _)
        (PartCache.lent?_setSlot_ready asks.found asks.home bitmap)
      exact (PartCache.outline_markValid index).trans (PartCache.outline_setSlot index _)
  | failed tile bitmap error asks drew =>
      have same := answered tile (by rw [drew]; exact DrawOutcome.noConfusion)
      refine same.symm ▸ h.step ledger found ?_ (fun i => PartCache.Raises.setSlot i index _)
        (PartCache.lent?_setSlot_ready asks.found asks.home bitmap)
      exact PartCache.outline_setSlot index _
  | deferred tile asks drew =>
      have added : keys (TilePass.answer renderer.collecting deadline pass index tile).2.1 =
          keys pass.renderer.1 ++ [pass.cache.keyOf index tile] :=
        (books.deferred _ deadline _ drew).trans (congrArg (· ++ [_]) clock)
      exact added.symm ▸ h.lend ledger found inPlace generation asks.found asks.home

lemma PaintPass.keepsBooks_paintRect (books : renderer.Books keys)
    (found : d.parts[part]? = some c) (inPlace : d.InPlace)
    (generation : c.generation < d.nextGeneration) (placement : Placement) (deadline : Nat)
    {pass : PaintPass σ} (rect : Rect .device)
    (h : KeepsBooks P d part c pass.cache (keys pass.renderer)) :
    KeepsBooks P d part c (pass.paintRect renderer placement deadline rect).cache
      (keys (pass.paintRect renderer placement deadline rect).renderer) := by
  simp only [PaintPass.paintRect]
  split_ifs
  · exact h
  · refine PartCache.sweep_rec (P := fun pass : TilePass Float (σ × List PaintRequest) =>
      KeepsBooks P d part c pass.cache (keys pass.renderer.1)) pass.cache pass.surface _
      (pass.renderer, []) h ?_
    intro pass index pass' visited ih
    exact keepsBooks_visited ledger books found inPlace generation visited ih

namespace Painter

variable {p : Painter}

lemma books_paintRects (books : renderer.Books keys)
    (sound : p.cache.Sound (Drawable fun _ _ => True)) (rects : List (Rect .device)) (s : σ)
    (h : P p.cache (keys s)) :
    P (p.paintRects rects renderer s).2.1.cache (keys (p.paintRects rects renderer s).2.2) := by
  cases shown : p.shown? with
  | none =>
      rw [paintRects_of_not_shown rects renderer s shown]
      exact (books.now s).symm ▸ h
  | some cache =>
      have found := (shown?_eq_some_iff.1 shown).1
      have start : KeepsBooks P p.cache p.placement.part cache cache
          (keys (renderer.now s).2) := by
        refine ⟨rfl, ?_⟩
        rw [books.now]
        exact ledger.carry h (.setPart found rfl (fun i => .refl i cache) fun _ => rfl)
      rw [paintRects_of_shown rects renderer s shown]
      refine (List.foldlRecOn (motive := fun pass : PaintPass σ =>
        KeepsBooks P p.cache p.placement.part cache pass.cache (keys pass.renderer))
        rects _ start ?_).books
      intro pass ih rect _
      exact PaintPass.keepsBooks_paintRect ledger books found sound.inPlace
        (sound _ cache found).generation_lt _ _ rect ih

/-! ## Requests -/

variable {owed : List TileKey}

lemma books_carryOut (inPlace : p.cache.InPlace) {request : PaintRequest}
    (delivers : request.Delivers ok) (h : P p.cache owed) :
    P (p.carryOut request).cache owed := by
  cases request with
  | staleArea part area =>
      exact ledger.carry h (.modifyPart inPlace (.staleArea part area) rfl
        (fun c => c.outline_invalidate area) fun c => c.lent?_invalidate area)
  | stalePart part =>
      exact ledger.carry h (.modifyPart inPlace (.stalePart part) rfl
        (fun c => c.outline_invalidateAll) fun c => c.lent?_invalidateAll)
  | damaged => exact h
  | scroll area shift =>
      rw [carryOut, cache_scroll]
      exact h
  | lateResult key outcome =>
      rw [carryOut, cache_takeBack]
      exact ledger.stray h inPlace delivers

lemma books_foldl_request {requests : List PaintRequest} (honest : p.Honest fun _ _ => True)
    (delivers : ∀ request ∈ requests, request.Delivers ok) (h : P p.cache owed) :
    P (requests.foldl Painter.request p).cache owed := by
  induction requests generalizing p with
  | nil => exact h
  | cons request requests ih =>
      obtain ⟨first, rest⟩ := List.forall_mem_cons.1 delivers
      refine ih (honest.request request.delivers_true) rest ?_
      rw [request_of_idle honest.idle]
      exact books_carryOut ledger honest.sound.inPlace first h

lemma books_receive (honest : p.Honest fun _ _ => True)
    (delivers : ∀ request ∈ p.inbox, request.Delivers ok) (h : P p.cache owed) :
    P p.receive.cache owed := by
  have emptied : ({ p with inbox := [] } : Painter).Honest fun _ _ => True :=
    ⟨honest.idle, honest.deferred, fun _ mem => absurd mem List.not_mem_nil, honest.sound⟩
  exact books_foldl_request ledger emptied delivers h

/-- The requests that waited for the end of a pass. -/
lemma books_carryOutDeferred (idle : p.phase = .idle) (inbox : p.inbox = [])
    (sound : p.cache.Sound (Drawable fun _ _ => True))
    (delivers : ∀ request ∈ p.deferred, request.Delivers ok) (h : P p.cache owed) :
    P p.carryOutDeferred.cache owed := by
  have emptied : ({ p with deferred := [] } : Painter).Honest fun _ _ => True :=
    ⟨idle, rfl, fun request _ => request.delivers_true, sound⟩
  rw [carryOutDeferred_eq idle inbox]
  exact books_foldl_request ledger emptied delivers h

/-- **A paint pass keeps the books.** -/
theorem books_paint (honest : p.Honest fun _ _ => True)
    (delivers : ∀ request ∈ p.inbox, request.Delivers ok) (books : renderer.Books keys)
    (submits : ∀ job deadline s, ∀ request ∈ (renderer.draw job deadline s).1.2,
      request.Delivers ok)
    (s : σ) (h : P p.cache (keys s)) :
    P (p.paint renderer s).2.1.cache (keys (p.paint renderer s).2.2) := by
  have received := books_receive ledger honest delivers h
  by_cases empty : p.receive.surface.isEmpty = true
  · rw [paint_of_isEmpty empty]
    exact received
  · obtain ⟨cache, deferred, inbox⟩ := clearSurface_eq p.receive
    have sound : p.receive.started.cache.Sound (Drawable fun _ _ => True) :=
      cache.symm ▸ honest.receive.sound
    have none : p.receive.started.deferred = [] := deferred.trans honest.receive.deferred
    have answers : renderer.Answers fun _ _ => True :=
      fun _ _ _ => ⟨trivial, fun request _ => request.delivers_true⟩
    have noInbox := inbox.trans (rest_receive honest.idle).2.1
    rw [paint_of_not_isEmpty empty]
    refine books_carryOutDeferred ledger rfl ?_ ?_ ?_ ?_
    · exact (rest_paintRects _ _ _ _).1.trans noInbox
    · exact sound_paintRects sound answers _ s
    · exact forall_deferred_paintRects submits
        (by rw [none]; exact fun _ mem => absurd mem List.not_mem_nil) _ s
    · exact books_paintRects ledger books sound _ s (cache.symm ▸ received)

end Painter

end Ledger

end Passes

end TiledView
