import NetLagLab.CallEnvironments

/-! Programs whose calls are themselves made by programs of another kind. Nothing in this file refers to a particular
set of calls. -/

namespace CallPrograms

open Program

variable {Call Lower : Type} {Answer : Call → Type} {LowerAnswer : Lower → Type} {α β : Type}

namespace Program

/-- Every call is made by its program. -/
def translate (handler : ∀ request, Program Lower LowerAnswer (Answer request)) :
    Program Call Answer α → Program Lower LowerAnswer α
  | .done result => .done result
  | .call request next => handler request >>= fun answer => (next answer).translate handler

theorem bind_assoc {γ : Type} (program : Program Call Answer α) (next : α → Program Call Answer β)
    (last : β → Program Call Answer γ) :
    (program >>= next) >>= last = program >>= fun result => next result >>= last := by
  induction program with
  | done result => rfl
  | call request rest ih => exact congrArg (Program.call request) (funext ih)

theorem bind_result (program : Program Call Answer α) : program >>= Program.done = program := by
  induction program with
  | done result => rfl
  | call request rest ih => exact congrArg (Program.call request) (funext ih)

variable (handler : ∀ request, Program Lower LowerAnswer (Answer request))

@[simp] theorem translate_call (request : Call) (next : Answer request → Program Call Answer α) :
    (Program.call request next).translate handler = handler request >>= fun answer => (next answer).translate handler :=
  rfl

/-- A call alone is its program. -/
theorem translate_perform (request : Call) :
    (perform request : Program Call Answer (Answer request)).translate handler = handler request :=
  bind_result (handler request)

theorem translate_bind (program : Program Call Answer α) (next : α → Program Call Answer β) :
    (program >>= next).translate handler =
      program.translate handler >>= fun result => (next result).translate handler := by
  induction program with
  | done result => rfl
  | call request rest ih =>
      rw [bind_call, translate_call, translate_call, bind_assoc]
      exact congrArg (handler request >>= ·) (funext ih)

end Program

section Safe

variable {State : Type} {environment : Environment Lower LowerAnswer State}
  {guarantee : Step Lower LowerAnswer State → Prop} {state : State}
  {handler : ∀ request, Program Lower LowerAnswer (Answer request)}

/-- Two programs in sequence, each with its calls made. -/
theorem safe_translate_bind {program : Program Call Answer α} {next : α → Program Call Answer β}
    {post : β → State → Prop}
    (h : Safe environment guarantee (fun result after => Safe environment guarantee post
      ((next result).translate handler) after) (program.translate handler) state) :
    Safe environment guarantee post ((program >>= next).translate handler) state := by
  rw [translate_bind]
  exact safe_bind h

end Safe

end CallPrograms
