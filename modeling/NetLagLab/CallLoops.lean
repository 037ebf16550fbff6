import NetLagLab.CallEnvironments

/-! Loops over programs that act through calls. A round goes from a state of the loop to the next one, or
leaves with a result. A loop is cut off after a number of rounds, so that what holds for every number holds
of a loop that may go on forever. Nothing in this file refers to a particular set of calls. -/

namespace CallPrograms

open Program

variable {Call : Type} {Answer : Call → Type} {σ α State : Type}

/-- At most so many rounds; without a result where the loop goes on. -/
def loop (body : σ → Program Call Answer (σ ⊕ α)) : Nat → σ → Program Call Answer (Option α)
  | 0, _ => .done none
  | rounds + 1, state => body state >>= fun
      | .inl next => loop body rounds next
      | .inr result => .done (some result)

/-- Whole rounds from one state of the loop to another, with their calls. -/
inductive Rounds (body : σ → Program Call Answer (σ ⊕ α)) : σ → List (Event Call Answer) → σ → Prop
  | refl (state : σ) : Rounds body state [] state
  | round {state next last : σ} {trace rest : List (Event Call Answer)}
      (first : Run (body state) trace (.inl next)) (more : Rounds body next rest last) :
      Rounds body state (trace ++ rest) last

section Rounds

variable {body : σ → Program Call Answer (σ ⊕ α)} {state last : σ} {trace : List (Event Call Answer)}

/-- What holds at first and is kept by every round holds of the calls so far and the state of the loop. -/
theorem Rounds.invariant {history : List (Event Call Answer) → σ → Prop} (hfirst : history [] state)
    (hround : ∀ before current during next, history before current →
      Run (body current) during (.inl next) → history (before ++ during) next)
    (h : Rounds body state trace last) : history trace last := by
  have hfrom : ∀ before, history before state → history (before ++ trace) last := by
    clear hfirst
    induction h with
    | refl state =>
        intro before hbefore
        rwa [List.append_nil]
    | round first more ih =>
        intro before hbefore
        rw [← List.append_assoc]
        exact ih _ (hround _ _ _ _ hbefore first)
  exact hfrom [] hfirst

/-- What holds of the loop and of the environment at first, and is kept by every round that the environment
answers, holds after them. -/
theorem Rounds.answered {environment : Environment Call Answer State} {P : σ → State → Prop}
    {host final : State} (hfirst : P state host)
    (hround : ∀ current before during next after, P current before →
      Run (body current) during (.inl next) → Answers environment before during after → P next after)
    (h : Rounds body state trace last) (hanswers : Answers environment host trace final) :
    P last final := by
  induction h generalizing host with
  | refl state =>
      obtain rfl := answers_nil.mp hanswers
      exact hfirst
  | round first more ih =>
      obtain ⟨middle, hduring, hmore⟩ := answers_append.mp hanswers
      exact ih (hround _ _ _ _ _ hfirst first hduring) hmore

/-- A run of a loop is whole rounds, and then the round that leaves unless the loop goes on. -/
theorem run_loop {rounds : Nat} {result : Option α} (h : Run (loop body rounds state) trace result) :
    (result = none ∧ ∃ last, Rounds body state trace last) ∨
      ∃ value last first rest, result = some value ∧ trace = first ++ rest ∧ Rounds body state first last ∧
        Run (body last) rest (.inr value) := by
  induction rounds generalizing state trace with
  | zero =>
      obtain ⟨rfl, rfl⟩ := run_done.mp h
      exact Or.inl ⟨rfl, state, .refl state⟩
  | succ rounds ih =>
      rw [loop, run_bind] at h
      obtain ⟨first, middle, rest, rfl, hfirst, hrest⟩ := h
      cases middle with
      | inr value =>
          obtain ⟨rfl, rfl⟩ := run_done.mp hrest
          rw [List.append_nil]
          exact Or.inr ⟨value, state, [], first, rfl, rfl, .refl state, hfirst⟩
      | inl next =>
          rcases ih hrest with ⟨rfl, last, hlast⟩ | ⟨value, last, between, leaving, rfl, rfl, hlast, hleave⟩
          · exact Or.inl ⟨rfl, last, .round hfirst hlast⟩
          · exact Or.inr ⟨value, last, first ++ between, leaving, rfl, (List.append_assoc _ _ _).symm,
              .round hfirst hlast, hleave⟩

/-- The round that a call of a loop belongs to. -/
theorem Rounds.split {first rest : List (Event Call Answer)} {event : Event Call Answer}
    (h : Rounds body state (first ++ event :: rest) last) :
    ∃ before during behind more current next, first = before ++ during ∧ rest = behind ++ more ∧
      Rounds body state before current ∧ Run (body current) (during ++ event :: behind) (.inl next) := by
  generalize htrace : first ++ event :: rest = trace at h
  induction h generalizing first rest with
  | refl state => exact absurd htrace (by simp)
  | round hfirst more ih =>
      rename_i state next last trace following
      have hlater : ∀ between, first = trace ++ between → following = between ++ event :: rest →
          ∃ before during behind more current next, first = before ++ during ∧ rest = behind ++ more ∧
            Rounds body state before current ∧ Run (body current) (during ++ event :: behind) (.inl next) := by
        rintro between rfl hrest
        obtain ⟨before, during, behind, more, current, next', rfl, hmore, hbefore, hduring⟩ := ih hrest.symm
        exact ⟨trace ++ before, during, behind, more, current, next', (List.append_assoc _ _ _).symm, hmore,
          .round hfirst hbefore, hduring⟩
      rcases List.append_eq_append_iff.mp htrace with ⟨between, hbetween, hrest⟩ | ⟨between, hbetween, hrest⟩
      · cases between with
        | nil =>
            rw [List.append_nil] at hbetween
            exact hlater [] (by rw [hbetween, List.append_nil]) hrest.symm
        | cons head between =>
            obtain ⟨rfl, rfl⟩ := List.cons.inj hrest
            rw [hbetween] at hfirst
            exact ⟨[], first, between, following, state, next, rfl, rfl, .refl state, hfirst⟩
      · exact hlater between hbetween hrest

/-- The round that a call of a run belongs to, whether it leaves the loop or not. -/
theorem run_loop_split {rounds : Nat} {result : Option α} {first rest : List (Event Call Answer)}
    {event : Event Call Answer} (h : Run (loop body rounds state) (first ++ event :: rest) result) :
    ∃ before during behind more current next, first = before ++ during ∧ rest = behind ++ more ∧
      Rounds body state before current ∧ Run (body current) (during ++ event :: behind) next := by
  rcases run_loop h with ⟨-, last, hlast⟩ | ⟨value, last, before, leaving, -, htrace, hlast, hleave⟩
  · obtain ⟨before, during, behind, more, current, next, hfirst, hrest, hbefore, hduring⟩ := hlast.split
    exact ⟨before, during, behind, more, current, .inl next, hfirst, hrest, hbefore, hduring⟩
  · rcases List.append_eq_append_iff.mp htrace with ⟨between, rfl, hrest⟩ | ⟨between, rfl, rfl⟩
    · cases between with
      | nil =>
          rw [List.append_nil] at hlast
          rw [List.nil_append] at hrest
          rw [← hrest] at hleave
          exact ⟨first, [], rest, [], last, .inr value, (List.append_nil _).symm, (List.append_nil _).symm,
            hlast, hleave⟩
      | cons head between =>
          obtain ⟨rfl, rfl⟩ := List.cons.inj hrest
          obtain ⟨before, during, behind, more, current, next, hfirst, rfl, hbefore, hduring⟩ := hlast.split
          exact ⟨before, during, behind, more ++ leaving, current, .inl next, hfirst, List.append_assoc _ _ _,
            hbefore, hduring⟩
    · exact ⟨before, between, rest, [], last, .inr value, rfl, (List.append_nil _).symm, hlast, hleave⟩

end Rounds

/-- A loop is safe where an invariant of the rounds so far holds at first and every round keeps it. A loop that goes
on has made all its rounds. -/
theorem safe_loop_counted {environment : Environment Call Answer State} {guarantee : Step Call Answer State → Prop}
    {body : σ → Program Call Answer (σ ⊕ α)} {post : α → State → Prop} {invariant : Nat → σ → State → Prop}
    (hround : ∀ round current host, invariant round current host →
      Safe environment guarantee (fun result after => result.elim (invariant (round + 1) · after) (post · after))
        (body current) host)
    {rounds : Nat} (round : Nat) {current : σ} {host : State} (h : invariant round current host) :
    Safe environment guarantee
      (fun result after => result.elim (∃ last, invariant (round + rounds) last after) (post · after))
      (loop body rounds current) host := by
  induction rounds generalizing round current host with
  | zero => exact ⟨current, h⟩
  | succ rounds ih =>
      refine safe_bind ((hround round current host h).imp ?_)
      intro result after hresult
      cases result with
      | inl next =>
          rw [Nat.add_comm rounds 1, ← Nat.add_assoc]
          exact ih (round + 1) hresult
      | inr value => exact hresult

end CallPrograms
