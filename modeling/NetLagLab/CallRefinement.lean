import Mathlib.Logic.Relation
import NetLagLab.CallEnvironments

/-! An environment that refines another one: seen through a view of its states, every answer of it is an answer of the
other. What is safe in the other environment is safe in it. Nothing in this file refers to a particular set of calls. -/

namespace CallPrograms

open Relation

variable {Call : Type} {Answer : Call → Type} {State Abstract α : Type}

/-- A call with the views of the states around it. -/
def Step.map (view : State → Abstract) (step : Step Call Answer State) : Step Call Answer Abstract :=
  ⟨view step.before, step.request, step.answer, view step.after⟩

/-- Where the invariant holds, an answer is one of the abstract environment in view, and keeps the invariant. -/
def Refines (environment : Environment Call Answer State) (abstract : Environment Call Answer Abstract)
    (view : State → Abstract) (invariant : State → Prop) : Prop :=
  ∀ before request answer after, invariant before → environment before request answer after →
    abstract (view before) request answer (view after) ∧ invariant after

/-- Between two calls the state moves by itself. -/
def interleaved (moves : State → State → Prop) (answers : Environment Call Answer State) :
    Environment Call Answer State :=
  fun before request answer after => ∃ middle, ReflTransGen moves before middle ∧ answers middle request answer after

/-- Where the invariant holds, a move is a sequence of abstract moves in view, and keeps the invariant. -/
def MovesRefine (moves : State → State → Prop) (abstract : Abstract → Abstract → Prop) (view : State → Abstract)
    (invariant : State → Prop) : Prop :=
  ∀ before after, invariant before → moves before after → ReflTransGen abstract (view before) (view after) ∧ invariant after

section Refinement

variable {environment : Environment Call Answer State} {abstract : Environment Call Answer Abstract}
  {view : State → Abstract} {invariant : State → Prop} {state final : State} {program last : Program Call Answer α}
  {trace : List (Step Call Answer State)}

theorem Refines.safe {guarantee : Step Call Answer Abstract → Prop} {post : α → Abstract → Prop}
    (h : Refines environment abstract view invariant) (hsafe : Safe abstract guarantee post program (view state))
    (hstate : invariant state) :
    Safe environment (fun step => guarantee (step.map view) ∧ invariant step.after)
      (fun result after => post result (view after) ∧ invariant after) program state := by
  induction program generalizing state with
  | done result => exact ⟨hsafe, hstate⟩
  | call request rest ih =>
      intro answer after hstep
      obtain ⟨hview, hafter⟩ := h _ _ _ _ hstate hstep
      obtain ⟨hthis, hrest⟩ := hsafe answer (view after) hview
      exact ⟨⟨hthis, hafter⟩, ih answer hrest hafter⟩

/-- A path of the environment is one of the abstract environment in view. -/
theorem Refines.path (h : Refines environment abstract view invariant)
    (hpath : Path environment program state trace last final) (hstate : invariant state) :
    Path abstract program (view state) (trace.map (Step.map view)) last (view final) ∧ invariant final := by
  induction hpath with
  | refl program state => exact ⟨.refl program (view state), hstate⟩
  | step hstep rest ih =>
      obtain ⟨hview, hmiddle⟩ := h _ _ _ _ hstate hstep
      obtain ⟨hrest, hfinal⟩ := ih hmiddle
      exact ⟨.step hview hrest, hfinal⟩

variable {moves : State → State → Prop} {abstractMoves : Abstract → Abstract → Prop}

theorem MovesRefine.all (h : MovesRefine moves abstractMoves view invariant) (hstate : invariant state)
    (hmoves : ReflTransGen moves state final) :
    ReflTransGen abstractMoves (view state) (view final) ∧ invariant final := by
  induction hmoves with
  | refl => exact ⟨.refl, hstate⟩
  | tail _ hmove ih =>
      obtain ⟨hview, hafter⟩ := h _ _ ih.2 hmove
      exact ⟨ih.1.trans hview, hafter⟩

/-- Moves and answers refine on their own. -/
theorem Refines.interleaved (h : Refines environment abstract view invariant)
    (hmoves : MovesRefine moves abstractMoves view invariant) :
    Refines (interleaved moves environment) (interleaved abstractMoves abstract) view invariant := by
  rintro before request answer after hbefore ⟨middle, hmiddle, hanswer⟩
  obtain ⟨hview, hinvariant⟩ := hmoves.all hbefore hmiddle
  obtain ⟨hanswered, hafter⟩ := h _ _ _ _ hinvariant hanswer
  exact ⟨⟨view middle, hview, hanswered⟩, hafter⟩

end Refinement

end CallPrograms
