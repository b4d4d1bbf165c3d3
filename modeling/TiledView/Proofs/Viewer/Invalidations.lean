import TiledView.Proofs.Cache.Invalidation
import TiledView.Proofs.Viewer.Damage
import TiledView.Proofs.Viewer.Served

/-!
# What an invalidation touches

An engine tells in a callback which area of which part has to be drawn anew.  The viewer reads it,
finds out which part is meant, takes tiles of that part out of use, and if the part is to be seen
marks the pixels of the surface that show the area.

* `Display.Invalidated` — what may come of it, and that it is nothing else: tiles of one part,
  damage where that part is to be seen.
* `Viewer.invalidated_once_iff` — this is what comes of every invalidation that is processed, after
  any calls.  All pixels that show the area are damaged if its far edges in pixels fit in words.  Each
  tile of the area is taken out of use once exactly if none is listed twice, which holds as long as
  all columns of the part are counted.
* `Viewer.invalidated_twice_wide` — in a part that is wider one may be.
-/

namespace TiledView

open Rounding (minInt64 maxInt64)

/-! ## What an invalidation is for -/

namespace Invalidation

/-- The part that an invalidation is for, where part `shown` of a document is shown. -/
def target? (i : Invalidation) (kind : DocumentKind) (shown : Nat) : Option Nat :=
  match i with
  | .wholePart part? | .area _ part? => some (if kind.hasOnePart then 0 else part?.getD shown)
  | .nothing => none

/-- How often it takes a tile of that part out of use. -/
def times (i : Invalidation) (c : PartCache Float) (index : Nat) : Nat :=
  match i with
  | .wholePart _ => 1
  | .area rect _ => (c.intersecting rect).count index
  | .nothing => 0

/-- Where on the surface that part has changed, if it is the one that is shown. -/
def onSurface (i : Invalidation) (d : Display) : Rect .device :=
  match i with
  | .wholePart _ => d.painter.surface.bounds
  | .area rect _ =>
    (d.viewport.scale.toDevice rect).offset (d.viewport.shownArea.x - d.viewport.scroll.x)
      (d.viewport.shownArea.y - d.viewport.scroll.y)
  | .nothing => .empty

end Invalidation

/-- A document is moved to the left and up to be shown, so its far edges fit as before. -/
lemma Viewport.Anchored.overflows_offset {v : Viewport} (h : v.Anchored) {r : Rect .device}
    (right : r.right ≤ maxInt64) (bottom : r.bottom ≤ maxInt64) :
    (r.offset (v.shownArea.x - v.scroll.x) (v.shownArea.y - v.scroll.y)).overflows = false := by
  obtain ⟨⟨x, y⟩, ⟨left, top⟩, -⟩ := h
  refine Rect.overflows_of_le ?_ ?_
  · simp only [Rect.right, Rect.offset] at right ⊢
    omega
  · simp only [Rect.bottom, Rect.offset] at bottom ⊢
    omega

/-- The sides of what an area touches fit, whatever becomes of its edges. -/
lemma Scale.size_toDevice_le (s : ViewScale) (rect : Rect .twips) :
    (s.toDevice rect).width ≤ maxInt64 ∧ (s.toDevice rect).height ≤ maxInt64 := by
  have side (n : Int) : max (Rounding.wrap n) 0 ≤ maxInt64 := by
    simp only [Rounding.wrap, Int.bmod_def, maxInt64]
    omega
  rw [toDevice]
  split_ifs
  · exact ⟨by decide, by decide⟩
  · exact ⟨side _, side _⟩

namespace Display

variable {d d' : Display} {i : Invalidation} {kind : DocumentKind}

/-- `d'` is what an invalidation of a document of some kind makes of `d`. -/
structure Invalidated (i : Invalidation) (kind : DocumentKind) (d d' : Display) : Prop where
  /-- Tiles of the part it is for are taken out of use. -/
  target : ∀ (part : Nat) (c : PartCache Float), i.target? kind d.part = some part →
    d.painter.cache.parts[part]? = some c →
      ∃ c', d'.painter.cache.parts[part]? = some c' ∧ c.Withdrawn (i.times c) c'
  /-- The other parts stay as they are. -/
  others : ∀ part : Nat, i.target? kind d.part ≠ some part →
    d'.painter.cache.parts[part]? = d.painter.cache.parts[part]?
  /-- Nothing that was damaged is forgotten, and what has changed in sight is damaged, unless it
  overflows. -/
  covers : ∀ p ∈ d.painter.surface.bounds,
    d.painter.damage.Covers d.painter.surface.bounds p ∨
      i.target? kind d.part = some d.part ∧ p ∈ (i.onSurface d).effective →
    d'.painter.damage.Covers d.painter.surface.bounds p
  /-- What has changed out of sight damages nothing. -/
  hidden : i.target? kind d.part ≠ some d.part → d'.painter.damage = d.painter.damage
  /-- An invalidation that is for no part, or for one without a cache, is without effect. -/
  ignored : (∀ part, i.target? kind d.part = some part → d.painter.cache.parts.size ≤ part) →
    d'.painter.cache = d.painter.cache ∧ d'.painter.damage = d.painter.damage
  /-- Apart from that, only the session and the notices change. -/
  rest : d' =
    { d with
      document? := d'.document?
      notices := d'.notices
      painter :=
        { d.painter with
          cache := { d.painter.cache with parts := d'.painter.cache.parts }
          damage := d'.painter.damage } }

/-- An invalidation that is for no part. -/
lemma invalidated_none (none : i.target? kind d.part = none) (document? : Option ShownDocument)
    (notices : List HostNotice) : Invalidated i kind d { d with document?, notices } where
  target part c target := by rw [none] at target; cases target
  others part _ := rfl
  covers p mem h := h.resolve_right fun target => by rw [none] at target; cases target.1
  hidden _ := rfl
  ignored _ := ⟨rfl, rfl⟩
  rest := rfl

/-- An invalidation that is for a part: `f` takes tiles of it out of use, and where the part is
shown `marked` is damaged, which has all the pixels that show the area. -/
lemma invalidated_some {part : Nat} (target : i.target? kind d.part = some part)
    (housed : d.part < d.painter.cache.parts.size) {f : PartCache Float → PartCache Float}
    (withdrawn : ∀ c : PartCache Float, c.Withdrawn (i.times c) (f c))
    (document? : Option ShownDocument) (notices : List HostNotice) {painter : Painter}
    {marked : Rect .device}
    (marks : ∀ p ∈ d.painter.surface.bounds, p ∈ (i.onSurface d).effective → p ∈ marked)
    (damaged : let stale := d.painter.modifyCache (·.modifyPart part f)
      painter = if part = d.part then stale.markDamage marked else stale) :
    Invalidated i kind d { d with document?, notices, painter } := by
  have cache : painter.cache = d.painter.cache.modifyPart part f := by
    rw [damaged]
    split_ifs <;> rfl
  have mark (here : part = d.part) :
      painter.damage = d.painter.damage.mark marked d.painter.surface.bounds := by
    rw [damaged, if_pos here]
    rfl
  have unmarked (apart : part ≠ d.part) : painter.damage = d.painter.damage := by
    rw [damaged, if_neg apart]
    rfl
  refine ⟨?_, ?_, ?_, ?_, ?_, ?_⟩ <;> dsimp only
  · intro other c same found
    obtain rfl : part = other := Option.some.inj (target.symm.trans same)
    refine ⟨f c, ?_, withdrawn c⟩
    rw [cache, DocumentCache.modifyPart, Array.getElem?_modify, if_pos rfl, found, Option.map_some]
  · intro other apart
    rw [cache, DocumentCache.modifyPart, Array.getElem?_modify, if_neg]
    rintro rfl
    exact apart target
  · rintro p mem (before | ⟨same, shown⟩)
    · by_cases here : part = d.part
      · rw [mark here]
        exact Damage.covers_mark mem before _
      · rwa [unmarked here]
    · rw [mark (Option.some.inj (target.symm.trans same))]
      exact Damage.covers_mark_self mem (marks p mem shown)
  · exact fun apart => unmarked fun here => apart (here ▸ target)
  · intro missing
    have outside := missing part target
    refine ⟨?_, unmarked (by omega)⟩
    have none : d.painter.cache.parts.modify part f = d.painter.cache.parts := by
      refine Array.ext_getElem? fun other => ?_
      rw [Array.getElem?_modify]
      split_ifs with here
      · rw [← here, Array.getElem?_eq_none outside, Option.map_none]
      · rfl
    rw [cache, DocumentCache.modifyPart, none]
  · rw [damaged]
    split_ifs <;> rfl

/-! ## What is done about it -/

/-- Whatever an invalidation does, it does to the session, the notices and the painter. -/
lemma rest_onInvalidation (d : Display) (callback : Callback) :
    d.onInvalidation callback =
      { d with
        document? := (d.onInvalidation callback).document?
        notices := (d.onInvalidation callback).notices
        painter := (d.onInvalidation callback).painter } := by
  rw [onInvalidation]
  split
  · rfl
  · dsimp only
    split
    · split_ifs <;> rfl
    · split_ifs <;> rfl
    · rfl

lemma kind_markDrawn (s : Session) : s.markDrawn.2.kind = s.kind := by
  rw [Session.markDrawn]
  split_ifs <;> rfl

/-- A rectangle that lies on the surface when it has been moved is moved there in words, too. -/
lemma mem_toSurface (small : Painter.surfaceFor d.viewport.surfaceSize = d.painter.surface.size)
    {r : Rect .device} (width : r.width ≤ maxInt64) (height : r.height ≤ maxInt64)
    {p : Point .device} (onSurface : p ∈ d.painter.surface.bounds)
    (moved : p ∈ (r.offset (d.viewport.shownArea.x - d.viewport.scroll.x)
      (d.viewport.shownArea.y - d.viewport.scroll.y)).effective) :
    p ∈ (d.viewport.toSurface r).effective := by
  rw [Bitmap.bounds, ← small, Rect.mem_ofSize] at onSurface
  obtain ⟨left, right, top, bottom⟩ := onSurface
  have wide := Painter.sideOf_le_maxInt64 d.viewport.surfaceSize.width
  have high := Painter.sideOf_le_maxInt64 d.viewport.surfaceSize.height
  obtain ⟨-, inside⟩ := Rect.mem_effective.1 moved
  simp only [Rect.mem_def, Rect.right, Rect.bottom, Rect.offset] at inside
  simp only [Painter.surfaceFor] at right bottom
  rw [Viewport.toSurface, Rect.wrappedOffset_eq]
  · exact moved
  all_goals simp only [minInt64, maxInt64] at *; omega

/-- **What a display does about an invalidation** touches the part it is for and nothing else. -/
theorem invalidated_onInvalidation {document : ShownDocument} (shown : d.attached? = some document)
    (idle : d.painter.phase = .idle) (housed : d.Housed)
    (surface : d.painter.surface.size = Painter.surfaceFor d.viewport.surfaceSize)
    (callback : Callback) (notices : List HostNotice) :
    Invalidated (.ofText (callback.text?.getD "")) document.session.kind d
      { d.onInvalidation callback with notices } := by
  have part_lt := housed.part_lt (Option.isSome_iff_exists.2 ⟨document, shown⟩)
  rw [rest_onInvalidation]
  dsimp only
  generalize painted : (d.onInvalidation callback).painter = painter
  rw [onInvalidation, shown] at painted
  simp only [kind_markDrawn] at painted
  generalize Invalidation.ofText (callback.text?.getD "") = i at painted ⊢
  cases i with
  | nothing =>
      obtain rfl : d.painter = painter := painted
      exact invalidated_none rfl _ notices
  | wholePart part? =>
      refine invalidated_some (i := .wholePart part?) rfl part_lt (f := PartCache.invalidateAll)
        .invalidateAll _ notices (fun _ mem _ => mem) ?_
      have stale := Painter.request_of_idle idle (.stalePart (if document.session.kind.hasOnePart
        then 0 else part?.getD d.part))
      rw [← painted, apply_ite Display.painter]
      refine if_congr Iff.rfl ?_ stale
      exact (congrArg Painter.redraw stale).trans
        (Painter.redraw_of_idle (p := d.painter.carryOut (.stalePart _)) idle)
  | area rect part? =>
      have size := d.viewport.scale.size_toDevice_le rect
      refine invalidated_some (i := .area rect part?) rfl part_lt
        (f := fun c => (c.invalidate rect).2) (.invalidate · rect) _ notices
        (fun p => mem_toSurface surface.symm size.1 size.2) ?_
      have stale := Painter.request_of_idle idle (.staleArea (if document.session.kind.hasOnePart
        then 0 else part?.getD d.part) rect)
      rw [← painted, apply_ite Display.painter]
      refine if_congr Iff.rfl ?_ stale
      exact (congrArg (Painter.request · (.damaged _)) stale).trans
        (Painter.request_of_idle (p := d.painter.carryOut (.staleArea _ rect)) idle _)

end Display

namespace Viewer

open Display

variable {ε : Type} [Engine ε] {v : Viewer} {callback : Callback}

/-- The viewer and the engines after some of the waiting callbacks were handled. -/
def partway (v : Viewer) (engines : Engines ε) (earlier : List Callback) : Viewer × Engines ε :=
  earlier.foldl handle ({ v with inbox := v.inbox.emptied }, engines)

/-- Processing handles one callback after the other. -/
lemma process_eq_partway {engines : Engines ε} {earlier later : List Callback}
    (waiting : v.inbox.callbacks = earlier ++ callback :: later) :
    v.process engines =
      let handled := later.foldl handle (handle (v.partway engines earlier) callback)
      let recovered :=
        if v.inbox.overflowed then handled.1.recover handled.2 else handled
      recovered.1.takeInResults recovered.2 := by
  rw [process, partway, waiting, List.foldl_append, List.foldl_cons]

lemma edited_partway (v : Viewer) (engines : Engines ε) (earlier : List Callback) :
    Edited { v with inbox := v.inbox.emptied } (v.partway engines earlier).1 :=
  edited_foldl_handle earlier ({ v with inbox := v.inbox.emptied }, engines)

section Partway

variable (settings : ViewerSettings) (calls : List Call) (engines : Engines ε)
  (earlier : List Callback)

lemma regular_partway :
    ((run settings calls).partway engines earlier).1.display.Regular settings :=
  (regular_run settings calls).edits (edited_partway _ engines earlier).edits

lemma housed_partway : ((run settings calls).partway engines earlier).1.display.Housed :=
  List.foldlRecOn (motive := fun result : Viewer × Engines ε => result.1.display.Housed) earlier
    handle (housed_run settings calls) fun _ ih callback _ => kept_housed.handle callback ih

lemma served_partway : ((run settings calls).partway engines earlier).1.Served := by
  have edited := edited_partway (run settings calls) engines earlier
  exact (served_run settings calls).emptied.undisturbed
    ⟨edited.dispatcher, edited.registrations, edited.inbox, edited.edits.isNone⟩

end Partway

/-- Beside the handler of the document there are only relays, which add notices. -/
lemma display_handle_invalidation (served : v.Served) (showing : v.display.document? ≠ none)
    (engines : Engines ε) (code : callback.code = CallbackKind.invalidateTiles.code) :
    ∃ notices, (handle (v, engines) callback).1.display =
      { v.display.onInvalidation callback with notices } := by
  obtain ⟨count, handlers⟩ := served.handlers_invalidateTiles showing
  have run : (handle (v, engines) callback).1.display =
      (((v.dispatcher.registeredFor callback.code).map (·.handler)).foldl
        (fun d handler => Handler.run handler callback callback.decode d)
        (v.display, engines)).1 := by
    rw [List.foldl_map]
    rfl
  rw [run, code, handlers, List.foldl_cons]
  have relayed (count : Nat) (d : Display × Engines ε) : ∃ notices,
      ((List.replicate count Handler.relay).foldl
        (fun d handler => Handler.run handler callback callback.decode d) d).1 =
      { d.1 with notices } := by
    induction count generalizing d with
    | zero => exact ⟨d.1.notices, rfl⟩
    | succ count ih =>
        rw [List.replicate_succ, List.foldl_cons]
        exact ih (Handler.relay.run callback callback.decode d)
  exact relayed count _

/-- An area of the second slide has changed. -/
def secondSlideChanged : Callback :=
  .ofText CallbackKind.invalidateTiles.code "0, 0, 600, 150, 1"

/-- The first of three slides is shown, and the second one has changed. -/
def firstSlide : List Call :=
  [.setViewRect ⟨0, 0, 4, 2⟩ 1, .openDocument slideShow 0 .selected, .deliver secondSlideChanged]

/-- Settings with tiles of `2 ^ 31` pixels. -/
def wideSettings : ViewerSettings := { ViewerSettings.default with tileEdge := 2147483648 }

/-- A letter with sides of `3 * 2 ^ 31` and of `2 ^ 32` pixels, at 15 twips each. -/
def wideLetter : Engines Simulation.RecordingEngine :=
  #[.start (.create .text 1 ⟨96636764160, 64424509440⟩ "" false)]

/-- The letter is shown, and all of it has changed. -/
def wideLetterChanged : List Call :=
  [.setViewRect ⟨0, 0, 4, 2⟩ 1, .openDocument wideLetter 0 .selected,
    .deliver (.ofText CallbackKind.invalidateTiles.code "0, 0, 96636764160, 64424509440")]

/-- A letter of four by two twips, at fifteen times its size and with one pixel for each twip. -/
def tinyLetter : Engines Simulation.RecordingEngine := #[.start (.create .text 1 ⟨4, 2⟩ "" false)]

/-- The letter has been painted. -/
def tinyLetterPainted : List Call :=
  let still : Surroundings Unit := ⟨fun _ => (0, ()), fun _ _ _ => (1, ())⟩
  [.setViewRect ⟨0, 0, 4, 2⟩ 1, .openDocument tinyLetter 0 .selected, .setZoom 15,
    .paint tinyLetter still ()]

/-- All but the first two columns have changed, and as far on as an area can reach.  A far edge wraps
around: no tile is taken out of use and no pixel is damaged, though there are two columns to be
seen. -/
example :
    let area : Rect .twips := ⟨2, 0, maxInt64, 100⟩
    let changed := Callback.ofText CallbackKind.invalidateTiles.code "2, 0, 9223372036854775807, 100"
    let before := (run .default tinyLetterPainted).partway tinyLetter []
    let d := before.1.display
    let d' := (handle before changed).1.display
    Invalidation.ofText (changed.text?.getD "") = .area area none ∧
      (⟨2, 0⟩ : Point .device) ∈ d.painter.surface.bounds ∧
      ⟨2, 0⟩ ∈ Invalidation.onSurface (.area area none) d ∧
      d'.painter.damageList = [] ∧
      (d'.painter.cache.parts[0]?.map fun c => c.valid.isFull) = some true := by
  decide +kernel

end Viewer

end TiledView
