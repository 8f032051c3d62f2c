import Mathlib

/-! # The moment a local time is shown at

A clock shows each moment with an offset that depends on the moment. To find the moment of a
local time the offset is looked up twice: at the local time itself, as if it were a moment,
and then at the moment that offset leads to. If the offset changes at most once in the
stretch of time about the local time that the offsets reach, the second one is right
wherever the local time is shown at all (`LocalTime.corrected_shown`): whichever side of the
change the first guess falls on, being led across it says that the other side's offset is
meant.
-/

namespace LocalTime

/-- The moment found for a local time. -/
def corrected (offset : Int → Int) (shown : Int) : Int :=
  shown - offset (shown - offset shown)

/-- An offset no larger than some radius either way. -/
def Within (radius value : Int) : Prop := -radius ≤ value ∧ value ≤ radius

/-- An offset that changes at most once about a local time, as far as the offsets reach. -/
structure ChangesOnce (offset : Int → Int) (shown radius change before after : Int) : Prop where
  before_small : Within radius before
  after_small : Within radius after
  steps : ∀ moment, shown - radius ≤ moment → moment ≤ shown + radius →
    offset moment = if moment < change then before else after

variable {offset : Int → Int} {shown radius change before after : Int}

/-- Near enough, the offset is one of the two. -/
theorem ChangesOnce.small (once : ChangesOnce offset shown radius change before after)
    {moment : Int} (since : shown - radius ≤ moment) (until_ : moment ≤ shown + radius) :
    Within radius (offset moment) := by
  rw [once.steps moment since until_]
  split
  · exact once.before_small
  · exact once.after_small

/-- What an offset found near enough leads to is near enough itself. -/
theorem ChangesOnce.reached (once : ChangesOnce offset shown radius change before after)
    {moment : Int} (since : shown - radius ≤ moment) (until_ : moment ≤ shown + radius) :
    shown - radius ≤ shown - offset moment ∧ shown - offset moment ≤ shown + radius := by
  have small := once.small since until_
  rw [Within] at small
  omega

/-- A local time that is shown at some moment is shown at the one found for it. -/
theorem corrected_shown (once : ChangesOnce offset shown radius change before after)
    {moment : Int} (small : Within radius (offset moment)) (occurs : moment + offset moment = shown) :
    corrected offset shown + offset (corrected offset shown) = shown := by
  have first := once.before_small
  have second := once.after_small
  rw [Within] at first second small
  have here : offset shown = if shown < change then before else after :=
    once.steps shown (by omega) (by omega)
  have near := once.reached (show shown - radius ≤ shown by omega) (by omega)
  have guessed := once.steps _ near.1 near.2
  have nearer := once.reached near.1 near.2
  have found := once.steps _ nearer.1 nearer.2
  have meant := once.steps moment (by omega) (by omega)
  -- it is left that the second offset holds where it leads
  suffices settled : offset (shown - offset (shown - offset shown)) =
      offset (shown - offset shown) by
    rw [corrected, settled, Int.sub_add_cancel]
  rw [found, guessed, here]
  rw [meant] at occurs
  split at occurs <;> split_ifs <;> omega

end LocalTime
