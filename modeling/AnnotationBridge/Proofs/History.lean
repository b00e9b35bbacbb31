import Mathlib.Data.List.Induction

/-!
# The last event of a kind

A history is a list of events, the latest at its end. What an event brought about often holds until
an event of some kind ends it.

* `History.LastAt`: an event of a history that no later event ends.
* `History.not_lastAt_nil`, `History.lastAt_concat_iff`: how this goes on with the history.
* `History.LastAt.unique`: of the events that end their own kind there is one last one.
-/

namespace AnnotationBridge.History

variable {α : Type} {history earlier earlier' : List α} {x x' y : α} {ends : α → Prop}

/-- The event `x` of a history comes after the events `earlier`, and no event after it is one that
ends it. -/
def LastAt (history earlier : List α) (x : α) (ends : α → Prop) : Prop :=
  ∃ later, history = earlier ++ x :: later ∧ ∀ y ∈ later, ¬ ends y

/-- Nothing has happened at first. -/
theorem not_lastAt_nil : ¬ LastAt [] earlier x ends := by
  rintro ⟨later, heq, -⟩
  simp at heq

/-- What happened last has happened. -/
theorem LastAt.mem (h : LastAt history earlier x ends) : x ∈ history := by
  obtain ⟨later, rfl, -⟩ := h
  simp

/-- One more event either is the one that is not ended, or leaves that what it was. -/
theorem lastAt_concat_iff :
    LastAt (history ++ [y]) earlier x ends ↔
      (y = x ∧ earlier = history) ∨ (¬ ends y ∧ LastAt history earlier x ends) := by
  constructor
  · rintro ⟨later, heq, hlater⟩
    rcases List.eq_nil_or_concat later with rfl | ⟨later, last, rfl⟩
    · obtain ⟨rfl, hy⟩ := List.append_inj' heq rfl
      exact .inl ⟨List.singleton_inj.1 hy, rfl⟩
    · have hsplit : history ++ [y] = (earlier ++ x :: later) ++ [last] := by
        simpa using heq
      obtain ⟨rfl, hy⟩ := List.append_inj' hsplit rfl
      obtain rfl := List.singleton_inj.1 hy
      exact .inr ⟨hlater y (by simp), later, rfl, fun z hz => hlater z (by simp [hz])⟩
  · rintro (⟨rfl, rfl⟩ | ⟨hy, later, rfl, hlater⟩)
    · exact ⟨[], rfl, fun z hz => absurd hz List.not_mem_nil⟩
    · refine ⟨later ++ [y], by simp, fun z hz => ?_⟩
      rcases List.mem_append.1 hz with hz | hz
      · exact hlater z hz
      · rw [List.mem_singleton.1 hz]
        exact hy

/-- Events that end one another are not both last. -/
theorem LastAt.unique (h : LastAt history earlier x ends) (h' : LastAt history earlier' x' ends)
    (hx : ends x) (hx' : ends x') : earlier = earlier' ∧ x = x' := by
  induction history using List.reverseRecOn with
  | nil => exact absurd h not_lastAt_nil
  | append_singleton history y ih =>
    rcases lastAt_concat_iff.1 h with ⟨rfl, rfl⟩ | ⟨hy, h⟩ <;>
      rcases lastAt_concat_iff.1 h' with ⟨rfl, rfl⟩ | ⟨hy', h'⟩
    · exact ⟨rfl, rfl⟩
    · exact absurd hx hy'
    · exact absurd hx' hy
    · exact ih h h'

end AnnotationBridge.History
