import Mathlib.Data.List.TakeDrop

/-! A pipe as its reader sees it: what has been taken from it, what waits in it, and whether anyone can still write to
it. A reader may keep only so much of what it takes. Nothing in this file refers to a particular program. -/

namespace PipeReading

variable {α : Type}

structure Pipe (α : Type) where
  taken : List α := []
  unread : List α := []
  /-- Someone holds an end to write to. -/
  held : Bool := true
  deriving DecidableEq

/-- What a read comes to: items, the end, nothing for now, or an error. -/
inductive PipeRead (α : Type) where
  | data (items : List α)
  | ended
  | nothing
  | failed (error : Int)
  deriving DecidableEq

namespace Pipe

/-- Everything that was ever written. -/
def written (pipe : Pipe α) : List α := pipe.taken ++ pipe.unread

def write (pipe : Pipe α) (items : List α) : Pipe α := { pipe with unread := pipe.unread ++ items }

def close (pipe : Pipe α) : Pipe α := { pipe with held := false }

/-- How a read of at most so many items may be answered. -/
def Reads (pipe : Pipe α) (size : Nat) : PipeRead α → Pipe α → Prop
  | .data items, after => items ≠ [] ∧ items.length ≤ size ∧ ∃ rest, pipe.unread = items ++ rest ∧
      after = { pipe with taken := pipe.taken ++ items, unread := rest }
  | .ended, after => pipe.unread = [] ∧ pipe.held = false ∧ after = pipe
  | .nothing, after => pipe.unread = [] ∧ after = pipe
  | .failed _, after => after = pipe

/-- Nothing comes any more. -/
structure Exhausted (pipe : Pipe α) : Prop where
  unread : pipe.unread = []
  held : pipe.held = false

@[simp] theorem taken_write (pipe : Pipe α) (items : List α) : (pipe.write items).taken = pipe.taken := rfl

@[simp] theorem taken_close (pipe : Pipe α) : pipe.close.taken = pipe.taken := rfl

@[simp] theorem written_close (pipe : Pipe α) : pipe.close.written = pipe.written := rfl

@[simp] theorem held_close (pipe : Pipe α) : pipe.close.held = false := rfl

@[simp] theorem written_write (pipe : Pipe α) (items : List α) : (pipe.write items).written = pipe.written ++ items :=
  (List.append_assoc _ _ _).symm

theorem written_prefix_write (pipe : Pipe α) (items : List α) : pipe.written <+: (pipe.write items).written := by
  rw [written_write]
  exact List.prefix_append _ _

variable {pipe after : Pipe α} {size : Nat} {reading : PipeRead α}

theorem Exhausted.taken_eq (h : pipe.Exhausted) : pipe.taken = pipe.written := by
  rw [written, h.unread, List.append_nil]

theorem Exhausted.close (h : pipe.Exhausted) : pipe.close.Exhausted := ⟨h.unread, rfl⟩

/-- Only a read of items takes something. -/
theorem Reads.unchanged (h : pipe.Reads size reading after) (hreading : ∀ items, reading ≠ .data items) :
    after = pipe := by
  cases reading with
  | data items => exact absurd rfl (hreading items)
  | ended => exact h.2.2
  | nothing => exact h.2
  | failed error => exact h

/-- What a read does to the two sides of a pipe: it takes a beginning of what waits. -/
theorem Reads.moved (h : pipe.Reads size reading after) : after.held = pipe.held ∧
    ∃ items, after.taken = pipe.taken ++ items ∧ pipe.unread = items ++ after.unread := by
  by_cases hdata : ∃ items, reading = .data items
  · obtain ⟨items, rfl⟩ := hdata
    obtain ⟨-, -, rest, hunread, rfl⟩ := h
    exact ⟨rfl, items, rfl, hunread⟩
  · obtain rfl := h.unchanged (not_exists.mp hdata)
    exact ⟨rfl, [], (List.append_nil _).symm, rfl⟩

/-- A read leaves what was written as it is. -/
theorem Reads.written (h : pipe.Reads size reading after) : after.written = pipe.written := by
  obtain ⟨-, items, htaken, hunread⟩ := h.moved
  rw [Pipe.written, Pipe.written, htaken, hunread, List.append_assoc]

theorem Reads.taken_prefix (h : pipe.Reads size reading after) : pipe.taken <+: after.taken := by
  obtain ⟨-, items, htaken, -⟩ := h.moved
  rw [htaken]
  exact List.prefix_append _ _

/-- A reader that has come to the end or to a pause has taken all. -/
theorem Reads.all_taken (h : pipe.Reads size reading after) (hreading : reading = .ended ∨ reading = .nothing) :
    after.taken = after.written := by
  rcases hreading with rfl | rfl
  · obtain ⟨hunread, -, rfl⟩ := h
    rw [Pipe.written, hunread, List.append_nil]
  · obtain ⟨hunread, rfl⟩ := h
    rw [Pipe.written, hunread, List.append_nil]

end Pipe

/-! ### What a reader keeps -/

/-- What a reader holds: whether it still reads, and what it has kept. -/
structure Capture (α : Type) where
  pipeOpen : Bool := true
  captured : List α := []
  deriving DecidableEq

namespace Capture

/-- Only so many items are kept. -/
def keep (capture : Capture α) (limit : Nat) (items : List α) : Capture α :=
  { capture with captured := capture.captured ++ items.take (limit - capture.captured.length) }

/-- The reader has kept the first items, and has stopped only where nothing comes any more. -/
structure Follows (capture : Capture α) (limit : Nat) (pipe : Pipe α) : Prop where
  kept : capture.captured = pipe.taken.take limit
  ended : capture.pipeOpen = false → pipe.Exhausted

variable {capture : Capture α} {limit size : Nat} {pipe after : Pipe α} {items : List α}

/-- What is kept of more and more is the beginning of all. -/
theorem take_keep (taken items : List α) (limit : Nat) :
    taken.take limit ++ items.take (limit - (taken.take limit).length) = (taken ++ items).take limit := by
  rw [List.take_append, List.length_take]
  congr 2
  omega

theorem Follows.keep (h : capture.Follows limit pipe) (hopen : capture.pipeOpen = true)
    (hread : pipe.Reads size (.data items) after) : (capture.keep limit items).Follows limit after := by
  obtain ⟨-, -, rest, -, rfl⟩ := hread
  refine ⟨?_, fun hclosed => absurd (hopen.symm.trans hclosed) (by decide)⟩
  rw [Capture.keep, h.kept]
  exact take_keep _ _ _

theorem Follows.ended_read (h : capture.Follows limit pipe) (hread : pipe.Reads size .ended after) :
    ({ capture with pipeOpen := false } : Capture α).Follows limit after := by
  obtain ⟨hunread, hheld, rfl⟩ := hread
  exact ⟨h.kept, fun _ => ⟨hunread, hheld⟩⟩

theorem Follows.unchanged (h : capture.Follows limit pipe) {reading : PipeRead α} (hread : pipe.Reads size reading after)
    (hreading : ∀ items, reading ≠ .data items) : capture.Follows limit after := by
  rw [hread.unchanged hreading]
  exact h

theorem Follows.write (h : capture.Follows limit pipe) (hheld : pipe.held = true) (items : List α) :
    capture.Follows limit (pipe.write items) :=
  ⟨h.kept, fun hclosed => absurd (hheld.symm.trans (h.ended hclosed).held) (by decide)⟩

theorem Follows.close (h : capture.Follows limit pipe) : capture.Follows limit pipe.close :=
  ⟨h.kept, fun hclosed => (h.ended hclosed).close⟩

end Capture

end PipeReading
