import TelemetryAutomation.Run.Basic

/-!
# Finishing a run

Whoever holds a run may try to finish it again and again. Of all attempts one counts, the first that asks for
a final status. All others are refused with the statuses between which the run cannot pass, and a refused
attempt changes nothing: `Run.answers_start`.
-/

namespace TelemetryAutomation

/-- An attempt to finish a run. -/
structure FinishAttempt where
  status : RunStatus
  errorSummary : Option Json
  finishedAt : Timestamp

namespace Run

variable {run : Run} {attempt : FinishAttempt}

/-- The run as an attempt finishes it. -/
def finishedBy (run : Run) (attempt : FinishAttempt) : Run :=
  { run with
    status := attempt.status
    errorSummary := attempt.errorSummary
    finishedAt := some attempt.finishedAt }

/-- The answer to an attempt, and the run after it. -/
def answer (run : Run) (attempt : FinishAttempt) : Except RunError Unit × Run :=
  match run.finish attempt.status attempt.errorSummary attempt.finishedAt with
  | .ok finished => (.ok (), finished)
  | .error error => (.error error, run)

/-- The answers to attempts that follow one another, each with the run after it. -/
def answers (run : Run) : List FinishAttempt → List (Except RunError Unit × Run)
  | [] => []
  | attempt :: rest => run.answer attempt :: (run.answer attempt).2.answers rest

/-- What a refused attempt comes to: an error that names both statuses, and the run as it was. -/
def refusal (run : Run) (attempt : FinishAttempt) : Except RunError Unit × Run :=
  (.error ⟨run.status, attempt.status⟩, run)

/-- A run has a time at which it was finished exactly if its status is final. -/
def IsDated (run : Run) : Prop := run.finishedAt.isSome ↔ run.status.isTerminal

/-! ## One attempt -/

theorem eq_running_of_not {status : RunStatus} (h : ¬ status.isTerminal) : status = .running := by
  cases status with
  | running => rfl
  | completed => exact absurd rfl h
  | failed => exact absurd rfl h

/-- A run that is running can be given a final status. -/
theorem answer_of_running (hrun : run.status = .running) (hattempt : attempt.status.isTerminal) :
    run.answer attempt = (.ok (), run.finishedBy attempt) := by
  rw [answer, finish, if_pos ⟨hrun, hattempt⟩]
  rfl

/-- No other attempt succeeds. -/
theorem answer_of_not (h : ¬ (run.status = .running ∧ attempt.status.isTerminal)) :
    run.answer attempt = run.refusal attempt := by
  rw [answer, finish, if_neg h]
  rfl

theorem isDated_finishedBy (hattempt : attempt.status.isTerminal) : (run.finishedBy attempt).IsDated :=
  iff_of_true rfl hattempt

theorem forall_isDated_refusal (h : run.IsDated) (attempts : List FinishAttempt) :
    ∀ answer ∈ attempts.map run.refusal, answer.2.IsDated := by
  rintro _ hanswer
  obtain ⟨attempt, -, rfl⟩ := List.mem_map.mp hanswer
  exact h

/-! ## Attempts that follow one another -/

/-- Attempts that are refused do not matter to those after them. -/
theorem answers_append {refused : List FinishAttempt}
    (h : ∀ attempt ∈ refused, ¬ (run.status = .running ∧ attempt.status.isTerminal))
    (rest : List FinishAttempt) :
    run.answers (refused ++ rest) = refused.map run.refusal ++ run.answers rest := by
  induction refused with
  | nil => rfl
  | cons attempt more ih =>
    obtain ⟨hattempt, hmore⟩ := List.forall_mem_cons.mp h
    rw [List.cons_append, answers, answer_of_not hattempt]
    exact congrArg _ (ih hmore)

/-- As long as no attempt can succeed, all are refused. -/
theorem answers_of_not {attempts : List FinishAttempt}
    (h : ∀ attempt ∈ attempts, ¬ (run.status = .running ∧ attempt.status.isTerminal)) :
    run.answers attempts = attempts.map run.refusal := by
  have hanswers := answers_append h []
  rwa [answers, List.append_nil, List.append_nil] at hanswers

/-- After a run has been finished, every attempt is refused. -/
theorem answers_finishedBy (hattempt : attempt.status.isTerminal) (attempts : List FinishAttempt) :
    (run.finishedBy attempt).answers attempts = attempts.map (run.finishedBy attempt).refusal := by
  apply answers_of_not
  rintro later - ⟨hrunning, -⟩
  have hstatus : attempt.status = .running := hrunning
  rw [hstatus] at hattempt
  cases hattempt

/-- **A run is finished once.** Of all attempts at a run that has just started, the first with a final status
succeeds and gives the run its status, its error and its time. The attempts before it and those after it are
refused and leave the run as it is, and so are all attempts if none has a final status. At no point does a
run have a final status without a time, or a time without a final status. -/
theorem answers_start (id : Key .run) (draft : RunDraft) (startedAt : Timestamp)
    (attempts : List FinishAttempt) :
    let started := start id draft startedAt
    ((∀ attempt ∈ attempts, attempt.status = .running) ∧
        started.answers attempts = attempts.map started.refusal ∨
      ∃ before first after, attempts = before ++ first :: after ∧
        (∀ attempt ∈ before, attempt.status = .running) ∧ first.status.isTerminal ∧
        started.answers attempts = before.map started.refusal ++
          (.ok (), started.finishedBy first) :: after.map (started.finishedBy first).refusal) ∧
      started.IsDated ∧ ∀ answer ∈ started.answers attempts, answer.2.IsDated := by
  intro started
  have hstarted : started.IsDated := iff_of_false nofun nofun
  have hrefused {attempts : List FinishAttempt} (h : ∀ attempt ∈ attempts, attempt.status = .running) :
      ∀ attempt ∈ attempts, ¬ (started.status = .running ∧ attempt.status.isTerminal) := by
    rintro attempt hattempt ⟨-, hterminal⟩
    rw [h attempt hattempt] at hterminal
    cases hterminal
  cases hfind : attempts.find? (·.status.isTerminal) with
  | none =>
    have hrunning : ∀ attempt ∈ attempts, attempt.status = .running := fun attempt hattempt =>
      eq_running_of_not (List.find?_eq_none.mp hfind attempt hattempt)
    have hanswers := answers_of_not (hrefused hrunning)
    refine ⟨.inl ⟨hrunning, hanswers⟩, hstarted, ?_⟩
    rw [hanswers]
    exact forall_isDated_refusal hstarted attempts
  | some first =>
    obtain ⟨hterminal, before, after, rfl, hbefore⟩ := List.find?_eq_some_iff_append.mp hfind
    have hrunning : ∀ attempt ∈ before, attempt.status = .running := fun attempt hattempt =>
      eq_running_of_not (by simpa using hbefore attempt hattempt)
    have hanswers : started.answers (before ++ first :: after) = before.map started.refusal ++
        (.ok (), started.finishedBy first) :: after.map (started.finishedBy first).refusal := by
      rw [answers_append (hrefused hrunning), answers, answer_of_running rfl hterminal,
        answers_finishedBy hterminal]
    refine ⟨.inr ⟨before, first, after, rfl, hrunning, hterminal, hanswers⟩, hstarted, ?_⟩
    have hfinished : (started.finishedBy first).IsDated := isDated_finishedBy hterminal
    rw [hanswers, List.forall_mem_append, List.forall_mem_cons]
    exact ⟨forall_isDated_refusal hstarted before, hfinished, forall_isDated_refusal hfinished after⟩

/-- A run that is completed cannot fail any more. -/
example (id : Key .run) (draft : RunDraft) (startedAt completed failed : Timestamp) (error : Json) :
    let finished := (start id draft startedAt).finishedBy ⟨.completed, none, completed⟩
    (start id draft startedAt).answers
        [⟨.running, none, startedAt⟩, ⟨.completed, none, completed⟩, ⟨.failed, some error, failed⟩] =
      [(.error ⟨.running, .running⟩, start id draft startedAt), (.ok (), finished),
        (.error ⟨.completed, .failed⟩, finished)] :=
  rfl

end Run

end TelemetryAutomation
