import TiledView.Cache.Document
import Mathlib.Tactic.Common

/-!
# Fitting a document cache

`DocumentCache.fit` works through the parts in order.  `DocumentCache.Fitted` says what it leaves
behind for one part: the cache that was there before if its scale and size were right, or a new one
whose generation nothing had before.  The induction is on the number of parts that have been worked
through; the parts past it are still the old ones, which is why each part is fitted against the
cache as it was at the start.

* `DocumentCache.fit_spec` — every part below the count is `Fitted`, and there are no other parts.
-/

namespace TiledView

namespace DocumentCache

variable {d e : DocumentCache} {count part : Nat} {scale : ViewScale} {documentSize : Size .twips}

/-- Whether a cache can stay as it is: it has this scale and this document size. -/
def keeps (scale : ViewScale) (documentSize : Size .twips) (c : PartCache Float) : Prop :=
  c.scale == scale ∧ c.documentSize = documentSize

lemma keeps_iff {c : PartCache Float} : keeps scale documentSize c ↔
    ¬ (c.scale != scale || c.documentSize != documentSize) = true := by
  simp only [keeps, bne, Bool.or_eq_true, Bool.not_eq_true', beq_eq_false_iff_ne, not_or,
    Bool.not_eq_false, ne_eq, not_not]

/-- What fitting `d` makes of the cache of a part, while generations below `next` are given out. -/
inductive Fitted (d : DocumentCache) (scale : ViewScale) (documentSize : Size .twips) (next : Nat)
    (part : Nat) : PartCache Float → Prop where
  | kept (c : PartCache Float) (found : d.parts[part]? = some c)
      (keeps : keeps scale documentSize c) : Fitted d scale documentSize next part c
  | built (generation : Nat) (fresh : d.nextGeneration ≤ generation ∧ generation < next)
      (stale : ∀ c, d.parts[part]? = some c → ¬ keeps scale documentSize c) :
      Fitted d scale documentSize next part
        (.build part scale documentSize d.tileEdge generation)

lemma Fitted.mono {next next' : Nat} {c : PartCache Float} (le : next ≤ next')
    (h : Fitted d scale documentSize next part c) : Fitted d scale documentSize next' part c := by
  cases h with
  | kept c found keeps => exact .kept c found keeps
  | built generation fresh stale =>
      exact .built generation ⟨fresh.1, Nat.lt_of_lt_of_le fresh.2 le⟩ stale

/-- `e` is `d` with the parts below `worked` fitted. -/
structure FittedUpTo (d : DocumentCache) (scale : ViewScale) (documentSize : Size .twips)
    (worked : Nat) (e : DocumentCache) : Prop where
  tileEdge : e.tileEdge = d.tileEdge
  size : e.parts.size = max worked d.parts.size
  le_next : d.nextGeneration ≤ e.nextGeneration
  fitted : ∀ part, part < worked → ∃ c, e.parts[part]? = some c ∧
    Fitted d scale documentSize e.nextGeneration part c
  rest : ∀ part, worked ≤ part → e.parts[part]? = d.parts[part]?

/-- One step: the next part comes to be fitted, by a cache `c` that stands at its place. -/
lemma FittedUpTo.succ {worked : Nat} {e' : DocumentCache} {c : PartCache Float}
    (h : FittedUpTo d scale documentSize worked e) (tileEdge : e'.tileEdge = e.tileEdge)
    (le : e.nextGeneration ≤ e'.nextGeneration)
    (size : e'.parts.size = max (worked + 1) d.parts.size)
    (here : e'.parts[worked]? = some c)
    (fitted : Fitted d scale documentSize e'.nextGeneration worked c)
    (others : ∀ part, part ≠ worked → e'.parts[part]? = e.parts[part]?) :
    FittedUpTo d scale documentSize (worked + 1) e' where
  tileEdge := tileEdge.trans h.tileEdge
  size := size
  le_next := Nat.le_trans h.le_next le
  fitted := by
    intro part hpart
    rcases Nat.lt_succ_iff_lt_or_eq.1 hpart with hpart | rfl
    · obtain ⟨old, found, hold⟩ := h.fitted part hpart
      exact ⟨old, by rw [others part (Nat.ne_of_lt hpart), found], hold.mono le⟩
    · exact ⟨c, here, fitted⟩
  rest := by
    intro part hpart
    rw [others part (by omega), h.rest part (by omega)]

/-- The new cache of a part that has none, or one that cannot stay. -/
lemma FittedUpTo.built {worked : Nat} (h : FittedUpTo d scale documentSize worked e)
    (stale : ∀ c, e.parts[worked]? = some c → ¬ keeps scale documentSize c) :
    Fitted d scale documentSize (e.nextGeneration + 1) worked
      (e.build worked scale documentSize) := by
  rw [build, h.tileEdge]
  refine .built _ ⟨h.le_next, Nat.lt_succ_self _⟩ ?_
  intro c found
  exact stale c ((h.rest worked (Nat.le_refl _)).trans found)

lemma FittedUpTo.fitPart {worked : Nat} (h : FittedUpTo d scale documentSize worked e) :
    FittedUpTo d scale documentSize (worked + 1) (e.fitPart scale documentSize worked) := by
  have hsize := h.size
  rw [DocumentCache.fitPart]
  split
  · next old found =>
    have inside : worked < e.parts.size := (Array.getElem?_eq_some_iff.1 found).1
    split_ifs with stale
    · refine h.succ rfl (Nat.le_succ _) ?_ ?_ (h.built ?_) ?_
      · rw [setPart, Array.size_setIfInBounds]
        omega
      · rw [setPart, Array.getElem?_setIfInBounds, if_pos rfl, if_pos inside]
      · intro c hc
        rw [found, Option.some.injEq] at hc
        rw [← hc, keeps_iff, not_not]
        exact stale
      · intro part apart
        exact Array.getElem?_setIfInBounds_ne (Ne.symm apart)
    · refine h.succ rfl (Nat.le_refl _) (by omega) found ?_ fun _ _ => rfl
      exact .kept old ((h.rest worked (Nat.le_refl _)).symm.trans found) (keeps_iff.2 stale)
  · next missing =>
    have outside : e.parts.size = worked := by
      have hle := Array.getElem?_eq_none_iff.1 missing
      omega
    refine h.succ rfl (Nat.le_succ _) ?_ ?_ (h.built ?_) ?_
    · rw [Array.size_push]
      omega
    · rw [← outside, Array.getElem?_push_size]
    · intro c hc
      rw [missing] at hc
      cases hc
    · intro part apart
      rw [Array.getElem?_push, if_neg (by omega)]

lemma fittedUpTo (d : DocumentCache) (scale : ViewScale) (documentSize : Size .twips) (n : Nat) :
    FittedUpTo d scale documentSize n
      ((List.range n).foldl (fitPart scale documentSize) d) := by
  induction n with
  | zero => exact ⟨rfl, (Nat.zero_max _).symm, Nat.le_refl _, fun _ h => by omega, fun _ _ => rfl⟩
  | succ n ih =>
      rw [List.range_succ, List.foldl_append]
      exact ih.fitPart

/-- **What fitting leaves behind.** -/
theorem fit_spec (d : DocumentCache) (count : Nat) (scale : ViewScale)
    (documentSize : Size .twips) :
    (d.fit count scale documentSize).tileEdge = d.tileEdge ∧
    (d.fit count scale documentSize).parts.size = count ∧
    d.nextGeneration ≤ (d.fit count scale documentSize).nextGeneration ∧
    ∀ part, part < count → ∃ c, (d.fit count scale documentSize).parts[part]? = some c ∧
      Fitted d scale documentSize (d.fit count scale documentSize).nextGeneration part c := by
  have h := fittedUpTo { d with parts := d.parts.take count } scale documentSize count
  have hsize : (d.parts.take count).size ≤ count := by
    rw [Array.size_extract]
    omega
  have htake : ∀ part, part < count → (d.parts.take count)[part]? = d.parts[part]? := by
    intro part hpart
    rw [Array.getElem?_extract, Nat.zero_add]
    split_ifs
    · rfl
    · rw [Array.getElem?_eq_none (by omega)]
  refine ⟨h.tileEdge, by rw [fit, h.size]; exact Nat.max_eq_left hsize, h.le_next, ?_⟩
  intro part hpart
  obtain ⟨c, found, hc⟩ := h.fitted part hpart
  refine ⟨c, found, ?_⟩
  cases hc with
  | kept c found keeps => exact .kept c ((htake part hpart) ▸ found) keeps
  | built generation fresh stale =>
      exact .built generation fresh fun c hc => stale c ((htake part hpart).trans hc)

end DocumentCache

end TiledView
