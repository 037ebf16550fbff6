import Mathlib.Data.List.Basic

/-! Machines that are fed a stream in pieces. Where a machine makes of a piece what it makes of its two parts,
however the piece is cut, it does not matter how the stream is cut. -/

namespace StreamPieces

variable {State Symbol Output : Type}

/-- What a machine makes of one piece of its stream. -/
abbrev Machine (State Symbol Output : Type) := State → List Symbol → State × List Output

/-- The pieces in their order, with everything that the machine put out. -/
def feedAll (feed : Machine State Symbol Output) : State → List (List Symbol) → State × List Output
  | state, [] => (state, [])
  | state, piece :: pieces =>
      ((feedAll feed (feed state piece).1 pieces).1, (feed state piece).2 ++ (feedAll feed (feed state piece).1 pieces).2)

section Feed

variable {feed : Machine State Symbol Output} {state : State}

@[simp] theorem feedAll_nil : feedAll feed state [] = (state, []) := rfl

theorem feedAll_cons (piece : List Symbol) (pieces : List (List Symbol)) :
    feedAll feed state (piece :: pieces) = ((feedAll feed (feed state piece).1 pieces).1,
      (feed state piece).2 ++ (feedAll feed (feed state piece).1 pieces).2) := rfl

@[simp] theorem feedAll_singleton (piece : List Symbol) : feedAll feed state [piece] = feed state piece := by
  rw [feedAll_cons, feedAll_nil, List.append_nil]

theorem feedAll_append (pieces more : List (List Symbol)) :
    feedAll feed state (pieces ++ more) = ((feedAll feed (feedAll feed state pieces).1 more).1,
      (feedAll feed state pieces).2 ++ (feedAll feed (feedAll feed state pieces).1 more).2) := by
  induction pieces generalizing state with
  | nil => rfl
  | cons piece pieces ih => rw [List.cons_append, feedAll_cons, ih, feedAll_cons, List.append_assoc]

/-- What is kept by every piece is kept by the stream. -/
theorem feedAll_invariant {Kept : State → Prop} (hkept : ∀ state piece, Kept state → Kept (feed state piece).1)
    (pieces : List (List Symbol)) (h : Kept state) : Kept (feedAll feed state pieces).1 := by
  induction pieces generalizing state with
  | nil => exact h
  | cons piece pieces ih => exact ih (hkept state piece h)

/-- Results of a stream that are as good as each other, and stay so behind the same outputs. -/
structure Comparison (State Output : Type) where
  Same : State × List Output → State × List Output → Prop
  refl : ∀ result, Same result result
  trans : ∀ {first second third}, Same first second → Same second third → Same first third
  frame : ∀ {first second} outputs, Same first second →
    Same (first.1, outputs ++ first.2) (second.1, outputs ++ second.2)

/-- A stream is as good in one piece as in the pieces it is cut into. -/
theorem compare_feedAll (compare : Comparison State Output)
    (happend : ∀ state first second, compare.Same (feed state (first ++ second)) (feedAll feed state [first, second]))
    {pieces : List (List Symbol)} (hpieces : pieces ≠ []) (state : State) :
    compare.Same (feed state pieces.flatten) (feedAll feed state pieces) := by
  induction pieces generalizing state with
  | nil => exact absurd rfl hpieces
  | cons piece pieces ih =>
      rcases pieces with _ | ⟨next, pieces⟩
      · rw [List.flatten_cons, List.flatten_nil, List.append_nil, feedAll_singleton]
        exact compare.refl _
      · have hrest := compare.frame (feed state piece).2 (ih (List.cons_ne_nil _ _) (feed state piece).1)
        have hfirst := happend state piece (next :: pieces).flatten
        rw [feedAll_cons, feedAll_singleton] at hfirst
        exact compare.trans hfirst hrest

/-- Equality. -/
def Comparison.eq : Comparison State Output where
  Same := Eq
  refl := fun _ => rfl
  trans := Eq.trans
  frame := fun _ h => h ▸ rfl

theorem feedAll_of_append
    (happend : ∀ state first second, feed state (first ++ second) = feedAll feed state [first, second])
    {pieces : List (List Symbol)} (hpieces : pieces ≠ []) (state : State) :
    feedAll feed state pieces = feed state pieces.flatten :=
  (compare_feedAll Comparison.eq happend hpieces state).symm

end Feed

end StreamPieces
