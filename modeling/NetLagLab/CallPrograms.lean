import Mathlib.Data.List.Basic

/-! Programs that act only through calls. A call is a request, and the type of its answer depends on
the request; nothing is said about which answers come. A run of a program is the list of its calls
with their answers, so what holds of all runs holds whatever the callee does. Nothing in this file
refers to a particular set of calls. -/

namespace CallPrograms

/-- A program ends with a result, or makes a call and goes on with the answer. -/
inductive Program (Call : Type) (Answer : Call → Type) (α : Type) : Type
  | done (result : α)
  | call (request : Call) (next : Answer request → Program Call Answer α)

/-- A call and its answer. -/
structure Event (Call : Type) (Answer : Call → Type) where
  request : Call
  answer : Answer request

variable {Call : Type} {Answer : Call → Type} {α β γ : Type}

namespace Program

def bind (program : Program Call Answer α) (next : α → Program Call Answer β) :
    Program Call Answer β :=
  match program with
  | .done result => next result
  | .call request rest => .call request fun answer => (rest answer).bind next

instance : Monad (Program Call Answer) where
  pure := .done
  bind := bind

/-- A single call. -/
def perform (request : Call) : Program Call Answer (Answer request) := .call request .done

@[simp] theorem pure_eq (result : α) : (pure result : Program Call Answer α) = .done result := rfl

@[simp] theorem bind_done (result : α) (next : α → Program Call Answer β) :
    (Program.done result >>= next) = next result := rfl

@[simp] theorem bind_call (request : Call) (rest : Answer request → Program Call Answer α)
    (next : α → Program Call Answer β) :
    (Program.call request rest >>= next) = .call request fun answer => rest answer >>= next := rfl

@[simp] theorem bind_perform (request : Call) (next : Answer request → Program Call Answer β) :
    (perform request >>= next) = .call request next := rfl

end Program

open Program

/-- The runs of a program: the calls it makes, with any answers, and its result. -/
inductive Run : Program Call Answer α → List (Event Call Answer) → α → Prop
  | done (result : α) : Run (.done result) [] result
  | call {request : Call} {next : Answer request → Program Call Answer α} (answer : Answer request)
      {trace : List (Event Call Answer)} {result : α} (rest : Run (next answer) trace result) :
      Run (.call request next) (⟨request, answer⟩ :: trace) result

variable {program : Program Call Answer α} {trace : List (Event Call Answer)}

@[simp] theorem run_done {result value : α} :
    Run (.done value : Program Call Answer α) trace result ↔ trace = [] ∧ result = value := by
  constructor
  · intro h
    cases h
    exact ⟨rfl, rfl⟩
  · rintro ⟨rfl, rfl⟩
    exact .done result

theorem run_call {request : Call} {next : Answer request → Program Call Answer α} {result : α} :
    Run (.call request next) trace result ↔
      ∃ answer rest, trace = ⟨request, answer⟩ :: rest ∧ Run (next answer) rest result := by
  constructor
  · intro h
    cases h with
    | call answer rest => exact ⟨answer, _, rfl, rest⟩
  · rintro ⟨answer, rest, rfl, h⟩
    exact .call answer h

/-- A run of two programs in sequence is a run of the first and a run of the second. -/
theorem run_bind {next : α → Program Call Answer β} {result : β} :
    Run (program >>= next) trace result ↔
      ∃ first middle rest, trace = first ++ rest ∧ Run program first middle ∧
        Run (next middle) rest result := by
  induction program generalizing trace with
  | done value =>
      rw [bind_done]
      constructor
      · intro h
        exact ⟨[], value, trace, rfl, .done value, h⟩
      · rintro ⟨first, middle, rest, rfl, hfirst, hrest⟩
        obtain ⟨rfl, rfl⟩ := run_done.mp hfirst
        exact hrest
  | call request follow ih =>
      rw [bind_call, run_call]
      constructor
      · rintro ⟨answer, more, rfl, h⟩
        obtain ⟨first, middle, rest, rfl, hfirst, hrest⟩ := (ih answer).mp h
        exact ⟨⟨request, answer⟩ :: first, middle, rest, rfl, .call answer hfirst, hrest⟩
      · rintro ⟨first, middle, rest, rfl, hfirst, hrest⟩
        obtain ⟨answer, more, rfl, h⟩ := run_call.mp hfirst
        exact ⟨answer, more ++ rest, rfl, (ih answer).mpr ⟨more, middle, rest, rfl, h, hrest⟩⟩

/-- The result of a program that makes just these calls and gets just these answers. -/
def follow [DecidableEq Call] : Program Call Answer α → List (Event Call Answer) → Option α
  | .done result, [] => some result
  | .call request next, event :: rest =>
      if h : event.request = request then follow (next (h ▸ event.answer)) rest else none
  | _, _ => none

theorem run_of_follow [DecidableEq Call] {result : α} (h : follow program trace = some result) :
    Run program trace result := by
  induction program generalizing trace with
  | done value =>
      cases trace with
      | nil => exact run_done.mpr ⟨rfl, (Option.some.inj h).symm⟩
      | cons event rest => exact nomatch h
  | call request next ih =>
      cases trace with
      | nil => exact nomatch h
      | cons event rest =>
          rw [follow] at h
          split at h
          · rename_i hrequest
            subst hrequest
            exact .call event.answer (ih event.answer h)
          · exact nomatch h

end CallPrograms
