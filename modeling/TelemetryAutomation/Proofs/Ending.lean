import TelemetryAutomation.Proofs.Success

/-!
# How actions end

An action on a state may fail, and what it has done before it fails is kept. `Ends` says what holds of the
state that it leaves, in the one case and in the other. It is known of a sequence of steps if it is known of
each step on what the step before it may have left.
-/

namespace TelemetryAutomation

variable {ε α β state : Type}

/-- If an action succeeds on a state, one property holds of its result and of what it leaves; if it fails,
another holds of the error and of what it leaves. -/
def Ends (act : ExceptT ε (StateM state) α) (before : state) (succeeded : α → state → Prop)
    (failed : ε → state → Prop) : Prop :=
  match act before with
  | (.ok value, after) => succeeded value after
  | (.error error, after) => failed error after

namespace Ends

variable {act : ExceptT ε (StateM state) α} {before after : state} {value : α} {error : ε}
  {succeeded succeeded' : α → state → Prop} {failed failed' : ε → state → Prop}

theorem of_ok (hact : act before = (.ok value, after)) (h : succeeded value after) :
    Ends act before succeeded failed := by
  rw [Ends, hact]
  exact h

theorem of_error (hact : act before = (.error error, after)) (h : failed error after) :
    Ends act before succeeded failed := by
  rw [Ends, hact]
  exact h

theorem at_ok (h : Ends act before succeeded failed) (hact : act before = (.ok value, after)) :
    succeeded value after := by
  rw [Ends, hact] at h
  exact h

theorem at_error (h : Ends act before succeeded failed) (hact : act before = (.error error, after)) :
    failed error after := by
  rw [Ends, hact] at h
  exact h

theorem pure (h : succeeded value before) :
    Ends (Pure.pure value : ExceptT ε (StateM state) α) before succeeded failed :=
  h

theorem throw (h : failed error before) :
    Ends (MonadExcept.throw error : ExceptT ε (StateM state) α) before succeeded failed :=
  h

theorem of_succeeds (h : Success.Succeeds act before succeeded) :
    Ends act before succeeded failed := by
  obtain ⟨value, after, hact, hsucceeded⟩ := h
  exact .of_ok hact hsucceeded

theorem mono (h : Ends act before succeeded failed)
    (hsucceeded : ∀ value after, succeeded value after → succeeded' value after)
    (hfailed : ∀ error after, failed error after → failed' error after) :
    Ends act before succeeded' failed' := by
  rcases hact : act before with ⟨result, after⟩
  cases result with
  | ok value => exact .of_ok hact (hsucceeded value after (h.at_ok hact))
  | error error => exact .of_error hact (hfailed error after (h.at_error hact))

/-- An action that cannot fail succeeds. -/
theorem succeeds (h : Ends act before succeeded failed)
    (hnever : ∀ error after, ¬ failed error after) : Success.Succeeds act before succeeded := by
  rcases hact : act before with ⟨result, after⟩
  cases result with
  | ok value => exact ⟨value, after, hact, h.at_ok hact⟩
  | error error => exact absurd (h.at_error hact) (hnever error after)

/-- What holds of the state in either case holds of whatever is left. -/
theorem leaves {property : state → Prop}
    (h : Ends act before (fun _ => property) fun _ => property) : property (act before).2 := by
  rcases hact : act before with ⟨result, after⟩
  cases result with
  | ok value => exact h.at_ok hact
  | error error => exact h.at_error hact

/-- What follows a step is done on what the step has left, if it succeeded. -/
theorem bind {rest : α → ExceptT ε (StateM state) β} {finished : β → state → Prop}
    (h : Ends act before succeeded failed)
    (hrest : ∀ value after, succeeded value after → Ends (rest value) after finished failed) :
    Ends (act >>= rest) before finished failed := by
  rcases hact : act before with ⟨result, after⟩
  cases result with
  | ok value =>
    have hvalue := hrest value after (h.at_ok hact)
    rw [Ends, Success.run_bind_of_ok hact]
    exact hvalue
  | error error => exact .of_error (Success.run_bind_of_error hact) (h.at_error hact)

/-- What is left by a step that fails need only imply what is left if any step fails. -/
theorem bind_mono {rest : α → ExceptT ε (StateM state) β} {finished : β → state → Prop}
    (h : Ends act before succeeded failed)
    (hrest : ∀ value after, succeeded value after → Ends (rest value) after finished failed')
    (hfailed : ∀ error after, failed error after → failed' error after) :
    Ends (act >>= rest) before finished failed' :=
  (h.mono (fun _ _ hsucceeded => hsucceeded) hfailed).bind hrest

/-- What follows a step that succeeds is done on what the step has left. -/
theorem bind_of_ok {rest : α → ExceptT ε (StateM state) β} {finished : β → state → Prop}
    (hact : act before = (.ok value, after)) (h : Ends (rest value) after finished failed) :
    Ends (act >>= rest) before finished failed := by
  rw [Ends, Success.run_bind_of_ok hact]
  exact h

/-- What follows a look at the state is done on the state that was seen. -/
theorem get_bind {rest : state → ExceptT ε (StateM state) β} {finished : β → state → Prop}
    (h : Ends (rest before) before finished failed) :
    Ends (MonadState.get >>= rest) before finished failed :=
  bind_of_ok rfl h

/-- What follows a demand is done only if it is met. -/
theorem require {demand : Prop} [Decidable demand] {rest : PUnit → ExceptT ε (StateM state) α}
    (hmet : demand → Ends (rest ⟨⟩) before succeeded failed)
    (hunmet : ¬ demand → failed error before) :
    Ends (if demand then rest ⟨⟩ else MonadExcept.throw error >>= rest) before succeeded failed := by
  by_cases h : demand
  · rw [if_pos h]
    exact hmet h
  · rw [if_neg h]
    have hthrow : Ends (MonadExcept.throw error : ExceptT ε (StateM state) PUnit) before
        (fun _ _ => False) failed := .throw (hunmet h)
    exact hthrow.bind nofun

/-- The result of an action does not matter if it is discarded. -/
theorem discard {left : state → Prop} (h : Ends act before (fun _ => left) failed) :
    Ends (Functor.discard act) before (fun _ => left) failed := by
  have hmap : Functor.discard act = act >>= fun _ => Pure.pure () :=
    (bind_pure_comp (fun _ => ()) act).symm
  rw [hmap]
  exact h.bind fun _ _ hafter => .pure hafter

/-- Actions on the items of a list, with an invariant that each of them keeps, even if it fails. -/
theorem mapM {items : List α} {act : α → ExceptT ε (StateM state) β} {invariant : state → Prop}
    {property : α → β → Prop}
    (h : ∀ item ∈ items, ∀ before, invariant before →
      Ends (act item) before (fun result after => property item result ∧ invariant after)
        fun _ => invariant)
    (hbefore : invariant before) :
    Ends (items.mapM act) before
      (fun results after => List.Forall₂ property items results ∧ invariant after)
      fun _ => invariant := by
  induction items generalizing before with
  | nil => exact .pure ⟨.nil, hbefore⟩
  | cons item rest ih =>
    obtain ⟨hitem, hrest⟩ := List.forall_mem_cons.mp h
    rw [List.mapM_cons]
    apply (hitem before hbefore).bind
    rintro result after ⟨hresult, hafter⟩
    apply (ih hrest hafter).bind
    rintro results final ⟨hresults, hfinal⟩
    exact .pure ⟨.cons hresult hresults, hfinal⟩

/-- Actions on the items of a list, with an invariant that knows which items are done and what they gave. -/
theorem mapM_done {items : List α} {act : α → ExceptT ε (StateM state) β}
    {invariant : List α → List β → state → Prop}
    (h : ∀ done item rest, items = done ++ item :: rest → ∀ results before,
      invariant done results before →
        Ends (act item) before (fun result => invariant (done ++ [item]) (results ++ [result])) failed)
    (hbefore : invariant [] [] before) : Ends (items.mapM act) before (invariant items) failed := by
  -- the items that are left are done on what those before them leave
  have hleft : ∀ (rest done : List α) (results : List β) (before : state), items = done ++ rest →
      invariant done results before →
        Ends (rest.mapM act) before (fun more => invariant items (results ++ more)) failed := by
    intro rest
    induction rest with
    | nil =>
      intro done results before hitems hbefore
      rw [List.append_nil] at hitems
      subst hitems
      rw [List.mapM_nil]
      refine .pure ?_
      rw [List.append_nil]
      exact hbefore
    | cons item rest ih =>
      intro done results before hitems hbefore
      rw [List.mapM_cons]
      apply (h done item rest hitems results before hbefore).bind
      intro result after hafter
      have hitems' : items = done ++ [item] ++ rest := by rw [hitems, List.append_cons]
      apply (ih _ _ _ hitems' hafter).bind
      intro more final hfinal
      refine .pure ?_
      rw [List.append_cons]
      exact hfinal
  exact hleft items [] [] before rfl hbefore

end Ends

end TelemetryAutomation
