import NetLagLab.CallPrograms

/-! Programs that act through calls on a state. An environment says how a state may answer a request and
what the state is afterwards; it need not be a function. A path is a run that may be cut off before any
call, so that what holds of all paths holds wherever the program dies. `Safe` is the weakest condition on
a state for a guarantee on every step and a condition on every result. An environment that a function
answers for can be executed. Nothing in this file refers to a particular set of calls. -/

namespace CallPrograms

open Program

variable {Call : Type} {Answer : Call → Type} {State α β : Type}

/-- How a state may answer a request, and the state after it. -/
abbrev Environment (Call : Type) (Answer : Call → Type) (State : Type) :=
  State → (request : Call) → Answer request → State → Prop

/-- A call with the states around it. -/
structure Step (Call : Type) (Answer : Call → Type) (State : Type) where
  before : State
  request : Call
  answer : Answer request
  after : State

/-- A run of a program up to some point: the steps so far, the rest of the program and the state. -/
inductive Path (environment : Environment Call Answer State) :
    Program Call Answer α → State → List (Step Call Answer State) → Program Call Answer α → State → Prop
  | refl (program : Program Call Answer α) (state : State) : Path environment program state [] program state
  | step {request : Call} {next : Answer request → Program Call Answer α} {state middle final : State}
      {answer : Answer request} {trace : List (Step Call Answer State)} {last : Program Call Answer α}
      (h : environment state request answer middle)
      (rest : Path environment (next answer) middle trace last final) :
      Path environment (.call request next) state (⟨state, request, answer, middle⟩ :: trace) last final

/-- A path goes on behind another. -/
theorem Path.trans {environment : Environment Call Answer State} {program middle last : Program Call Answer α}
    {state between final : State} {trace more : List (Step Call Answer State)}
    (h : Path environment program state trace middle between) (hmore : Path environment middle between more last final) :
    Path environment program state (trace ++ more) last final := by
  induction h with
  | refl program state => exact hmore
  | step hstep rest ih => exact .step hstep (ih hmore)

/-- Every step is as guaranteed and every result with its state meets the condition. -/
def Safe (environment : Environment Call Answer State) (guarantee : Step Call Answer State → Prop)
    (post : α → State → Prop) : Program Call Answer α → State → Prop
  | .done result, state => post result state
  | .call request next, state => ∀ answer after, environment state request answer after →
      guarantee ⟨state, request, answer, after⟩ ∧ Safe environment guarantee post (next answer) after

section Safe

variable {environment : Environment Call Answer State} {guarantee : Step Call Answer State → Prop}
  {post : α → State → Prop} {state final : State} {program last : Program Call Answer α}
  {trace : List (Step Call Answer State)}

@[simp] theorem safe_done {result : α} :
    Safe environment guarantee post (.done result) state ↔ post result state := Iff.rfl

@[simp] theorem safe_call {request : Call} {next : Answer request → Program Call Answer α} :
    Safe environment guarantee post (.call request next) state ↔
      ∀ answer after, environment state request answer after →
        guarantee ⟨state, request, answer, after⟩ ∧ Safe environment guarantee post (next answer) after :=
  Iff.rfl

/-- Two programs in sequence. -/
theorem safe_bind {post : β → State → Prop} {next : α → Program Call Answer β}
    (h : Safe environment guarantee (fun result after => Safe environment guarantee post (next result) after)
      program state) : Safe environment guarantee post (program >>= next) state := by
  induction program generalizing state with
  | done result => exact h
  | call request rest ih =>
      intro answer after hstep
      obtain ⟨hguarantee, hrest⟩ := h answer after hstep
      exact ⟨hguarantee, ih answer hrest⟩

theorem Safe.mono {environment' : Environment Call Answer State}
    {guarantee' : Step Call Answer State → Prop} {post' : α → State → Prop}
    (h : Safe environment guarantee post program state)
    (henvironment : ∀ before request answer after, environment' before request answer after →
      environment before request answer after)
    (hguarantee : ∀ step, environment' step.before step.request step.answer step.after →
      guarantee step → guarantee' step)
    (hpost : ∀ result after, post result after → post' result after) :
    Safe environment' guarantee' post' program state := by
  induction program generalizing state with
  | done result => exact hpost result state h
  | call request rest ih =>
      intro answer after hstep
      obtain ⟨hthis, hrest⟩ := h answer after (henvironment _ _ _ _ hstep)
      exact ⟨hguarantee ⟨state, request, answer, after⟩ hstep hthis, ih answer hrest⟩

/-- A weaker condition on the results. -/
theorem Safe.imp {post' : α → State → Prop} (h : Safe environment guarantee post program state)
    (hpost : ∀ result after, post result after → post' result after) :
    Safe environment guarantee post' program state :=
  h.mono (fun _ _ _ _ hstep => hstep) (fun _ _ hthis => hthis) hpost

theorem Safe.and {guarantee' : Step Call Answer State → Prop} {post' : α → State → Prop}
    (h : Safe environment guarantee post program state)
    (h' : Safe environment guarantee' post' program state) :
    Safe environment (fun step => guarantee step ∧ guarantee' step)
      (fun result after => post result after ∧ post' result after) program state := by
  induction program generalizing state with
  | done result => exact ⟨h, h'⟩
  | call request rest ih =>
      intro answer after hstep
      obtain ⟨hthis, hrest⟩ := h answer after hstep
      obtain ⟨hthis', hrest'⟩ := h' answer after hstep
      exact ⟨⟨hthis, hthis'⟩, ih answer hrest hrest'⟩

/-- What is safe stays so along a path, and the steps of the path are as guaranteed. -/
theorem Safe.path (h : Safe environment guarantee post program state)
    (hpath : Path environment program state trace last final) :
    (∀ step ∈ trace, guarantee step) ∧ Safe environment guarantee post last final := by
  induction hpath with
  | refl program state => exact ⟨fun step hstep => absurd hstep List.not_mem_nil, h⟩
  | step hstep rest ih =>
      obtain ⟨hthis, hrest⟩ := h _ _ hstep
      obtain ⟨hall, hlast⟩ := ih hrest
      exact ⟨List.forall_mem_cons.mpr ⟨hthis, hall⟩, hlast⟩

/-- An invariant that the steps as guaranteed keep holds throughout. -/
theorem Safe.invariant {invariant : State → Prop} (h : Safe environment guarantee post program state)
    (hstep : ∀ step : Step Call Answer State, environment step.before step.request step.answer step.after →
      guarantee step → invariant step.before → invariant step.after) (hstate : invariant state) :
    Safe environment (fun step => guarantee step ∧ invariant step.after)
      (fun result after => post result after ∧ invariant after) program state := by
  induction program generalizing state with
  | done result => exact ⟨h, hstate⟩
  | call request rest ih =>
      intro answer after henvironment
      obtain ⟨hthis, hrest⟩ := h answer after henvironment
      have hafter := hstep ⟨state, request, answer, after⟩ henvironment hthis hstate
      exact ⟨⟨hthis, hafter⟩, ih answer hrest hafter⟩

/-- What holds at the start and behind every step holds at the end of a path. -/
theorem Path.last_of_steps {invariant : State → Prop} (h : Path environment program state trace last final)
    (hstate : invariant state) (hall : ∀ step ∈ trace, invariant step.after) : invariant final := by
  induction h with
  | refl program state => exact hstate
  | step hstep rest ih =>
      rw [List.forall_mem_cons] at hall
      exact ih hall.1 hall.2

/-- A path whose steps are all allowed is one of the environment that takes no others. -/
theorem Path.restrict {allowed : Step Call Answer State → Prop}
    (h : Path environment program state trace last final) (hall : ∀ step ∈ trace, allowed step) :
    Path (fun before request answer after =>
      environment before request answer after ∧ allowed ⟨before, request, answer, after⟩) program state trace last
      final := by
  induction h with
  | refl program state => exact .refl program state
  | step hstep rest ih =>
      rw [List.forall_mem_cons] at hall
      exact .step ⟨hstep, hall.1⟩ (ih hall.2)

/-- The result of a whole run. -/
theorem Safe.result {result : α} (h : Safe environment guarantee post program state)
    (hpath : Path environment program state trace (.done result) final) : post result final :=
  (h.path hpath).2

/-- A program that is over behind its first answer, if it asks anything. -/
def Brief : Program Call Answer α → Prop
  | .done _ => True
  | .call _ next => ∀ answer, ∃ result, next answer = .done result

/-- Of a brief program it is enough to know what its whole runs come to. -/
theorem Brief.safe (h : Brief program)
    (hruns : ∀ trace result after, Path environment program state trace (.done result) after → post result after)
    (hguarantee : ∀ step result, post result step.after → guarantee step) :
    Safe environment guarantee post program state := by
  cases program with
  | done result => exact hruns [] result state (.refl _ _)
  | call request next =>
      intro answer after hstep
      obtain ⟨result, hresult⟩ := h answer
      have hpath : Path environment (.call request next) state [⟨state, request, answer, after⟩] (.done result) after :=
        .step hstep (hresult ▸ .refl _ _)
      have hpost := hruns _ _ _ hpath
      rw [hresult]
      exact ⟨hguarantee _ _ hpost, hpost⟩

end Safe

section Confined

/-- Whatever the answers are, the program makes only allowed calls and its result meets the condition. -/
def Confined (allowed : Call → Prop) (post : α → Prop) : Program Call Answer α → Prop
  | .done result => post result
  | .call request next => allowed request ∧ ∀ answer, Confined allowed post (next answer)

variable {allowed : Call → Prop} {post : α → Prop} {program : Program Call Answer α}

@[simp] theorem confined_done {result : α} :
    Confined allowed post (.done result : Program Call Answer α) ↔ post result := Iff.rfl

@[simp] theorem confined_call {request : Call} {next : Answer request → Program Call Answer α} :
    Confined allowed post (.call request next) ↔
      allowed request ∧ ∀ answer, Confined allowed post (next answer) := Iff.rfl

theorem confined_bind {post : β → Prop} {next : α → Program Call Answer β}
    (h : Confined allowed (fun result => Confined allowed post (next result)) program) :
    Confined allowed post (program >>= next) := by
  induction program with
  | done result => exact h
  | call request rest ih => exact ⟨h.1, fun answer => ih answer (h.2 answer)⟩

theorem Confined.mono {allowed' : Call → Prop} {post' : α → Prop} (h : Confined allowed post program)
    (hallowed : ∀ request, allowed request → allowed' request)
    (hpost : ∀ result, post result → post' result) : Confined allowed' post' program := by
  induction program with
  | done result => exact hpost result h
  | call request rest ih => exact ⟨hallowed request h.1, fun answer => ih answer (h.2 answer)⟩

/-- A weaker condition on the results. -/
theorem Confined.imp {post' : α → Prop} (h : Confined allowed post program)
    (hpost : ∀ result, post result → post' result) : Confined allowed post' program :=
  h.mono (fun _ hthis => hthis) hpost

/-- Nothing is asked of a program. -/
theorem confined_trivial (program : Program Call Answer α) :
    Confined (fun _ => True) (fun _ => True) program := by
  induction program with
  | done result => trivial
  | call request rest ih => exact ⟨trivial, ih⟩

/-- An invariant that the allowed calls keep holds throughout, and every step is as its state and its
request guarantee. -/
theorem Confined.safe {environment : Environment Call Answer State} {invariant : State → Prop}
    {guarantee : Step Call Answer State → Prop} (h : Confined allowed post program)
    (hstep : ∀ before request answer after, allowed request → invariant before →
      environment before request answer after →
      guarantee ⟨before, request, answer, after⟩ ∧ invariant after)
    {state : State} (hstate : invariant state) :
    Safe environment guarantee (fun result after => post result ∧ invariant after) program state := by
  induction program generalizing state with
  | done result => exact ⟨h, hstate⟩
  | call request rest ih =>
      intro answer after henvironment
      obtain ⟨hguarantee, hafter⟩ := hstep _ _ _ _ h.1 hstate henvironment
      exact ⟨hguarantee, ih answer (h.2 answer) hafter⟩

/-- The results alone, in any environment. -/
theorem Confined.results {environment : Environment Call Answer State} (h : Confined allowed post program)
    (state : State) : Safe environment (fun _ => True) (fun result _ => post result) program state :=
  (h.safe (fun _ _ _ _ _ _ _ => ⟨trivial, trivial⟩) trivial).imp fun _ _ hpost => hpost.1

/-- What is safe is so in an environment that answers the allowed calls alike. -/
theorem Confined.transfer {environment environment' : Environment Call Answer State}
    {guarantee : Step Call Answer State → Prop} {post' : α → State → Prop} (h : Confined allowed post program)
    (hanswers : ∀ before request answer after, allowed request → environment' before request answer after →
      environment before request answer after) {state : State}
    (hsafe : Safe environment guarantee post' program state) : Safe environment' guarantee post' program state := by
  induction program generalizing state with
  | done result => exact hsafe
  | call request rest ih =>
      intro answer after henvironment
      obtain ⟨hguarantee, hrest⟩ := hsafe answer after (hanswers _ _ _ _ h.1 henvironment)
      exact ⟨hguarantee, ih answer (h.2 answer) hrest⟩

/-- The calls of a path are allowed, and what is left of the program stays confined. -/
theorem Confined.path {environment : Environment Call Answer State} (h : Confined allowed post program)
    {state final : State} {trace : List (Step Call Answer State)} {last : Program Call Answer α}
    (hpath : Path environment program state trace last final) :
    (∀ step ∈ trace, allowed step.request) ∧ Confined allowed post last := by
  induction hpath with
  | refl program state => exact ⟨fun step hstep => absurd hstep List.not_mem_nil, h⟩
  | step hstep rest ih =>
      obtain ⟨hall, hlast⟩ := ih (h.2 _)
      exact ⟨List.forall_mem_cons.mpr ⟨h.1, hall⟩, hlast⟩

/-- A whole run of two programs is a whole run of the first and one of the second. -/
theorem Path.of_bind {environment : Environment Call Answer State} {next : α → Program Call Answer β}
    {state final : State} {trace : List (Step Call Answer State)} {result : β}
    (h : Path environment (program >>= next) state trace (.done result) final) :
    ∃ first middle value rest, trace = first ++ rest ∧
      Path environment program state first (.done value) middle ∧
      Path environment (next value) middle rest (.done result) final := by
  induction program generalizing state trace with
  | done value => exact ⟨[], state, value, trace, rfl, .refl _ _, h⟩
  | call request follow ih =>
      cases h with
      | step hstep rest =>
          obtain ⟨first, middle, value, more, rfl, hfirst, hmore⟩ := ih _ rest
          exact ⟨_ :: first, middle, value, more, rfl, .step hstep hfirst, hmore⟩

end Confined

section Execution

variable (respond : State → (request : Call) → Answer request × State)

/-- The path of at most the given number of calls that a function answers. -/
def execute : Nat → Program Call Answer α → State →
    List (Step Call Answer State) × Program Call Answer α × State
  | _, .done result, state => ([], .done result, state)
  | 0, program, state => ([], program, state)
  | calls + 1, .call request next, state =>
      let (answer, after) := respond state request
      let (trace, last, final) := execute calls (next answer) after
      (⟨state, request, answer, after⟩ :: trace, last, final)

/-- Execution follows a path of every environment that allows the answers on the way. -/
theorem path_execute {environment : Environment Call Answer State} (calls : Nat)
    (program : Program Call Answer α) (state : State)
    (h : ∀ step ∈ (execute respond calls program state).1,
      environment step.before step.request (respond step.before step.request).1
        (respond step.before step.request).2) :
    Path environment program state (execute respond calls program state).1
      (execute respond calls program state).2.1 (execute respond calls program state).2.2 := by
  induction calls generalizing program state with
  | zero =>
      cases program with
      | done result => exact .refl _ _
      | call request next => exact .refl _ _
  | succ calls ih =>
      cases program with
      | done result => exact .refl _ _
      | call request next =>
          obtain ⟨hfirst, hrest⟩ := List.forall_mem_cons.mp h
          exact .step hfirst (ih _ _ hrest)

/-- The result of a program that has ended. -/
def Program.ended : Program Call Answer α → Option α
  | .done result => some result
  | .call _ _ => none

theorem Program.eq_done_of_ended {program : Program Call Answer α} {result : α}
    (h : program.ended = some result) : program = .done result := by
  cases program with
  | done value => rw [Option.some.inj h]
  | call request next => exact nomatch h

end Execution

section Answers

/-- An environment answers calls in turn. -/
inductive Answers (environment : Environment Call Answer State) :
    State → List (Event Call Answer) → State → Prop
  | nil (state : State) : Answers environment state [] state
  | cons {state middle final : State} {event : Event Call Answer} {trace : List (Event Call Answer)}
      (h : environment state event.request event.answer middle) (rest : Answers environment middle trace final) :
      Answers environment state (event :: trace) final

variable {environment : Environment Call Answer State} {state final : State} {event : Event Call Answer}
  {first rest : List (Event Call Answer)}

@[simp] theorem answers_nil : Answers environment state [] final ↔ final = state := by
  constructor
  · intro h
    cases h
    rfl
  · rintro rfl
    exact .nil final

theorem answers_cons : Answers environment state (event :: rest) final ↔
    ∃ middle, environment state event.request event.answer middle ∧ Answers environment middle rest final := by
  constructor
  · intro h
    cases h with
    | cons h rest => exact ⟨_, h, rest⟩
  · rintro ⟨middle, h, hrest⟩
    exact .cons h hrest

theorem answers_append : Answers environment state (first ++ rest) final ↔
    ∃ middle, Answers environment state first middle ∧ Answers environment middle rest final := by
  induction first generalizing state with
  | nil =>
      constructor
      · exact fun h => ⟨state, .nil state, h⟩
      · rintro ⟨middle, hfirst, hrest⟩
        rwa [answers_nil.mp hfirst] at hrest
  | cons event first ih =>
      rw [List.cons_append, answers_cons]
      constructor
      · rintro ⟨after, hevent, h⟩
        obtain ⟨middle, hfirst, hrest⟩ := ih.mp h
        exact ⟨middle, .cons hevent hfirst, hrest⟩
      · rintro ⟨middle, hfirst, hrest⟩
        obtain ⟨after, hevent, hfirst⟩ := answers_cons.mp hfirst
        exact ⟨after, hevent, ih.mpr ⟨middle, hfirst, hrest⟩⟩

end Answers

end CallPrograms
