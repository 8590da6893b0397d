import Mathlib.Data.List.Basic

/-!
# Runs of an event-driven system

A system is a step function `σ → ε → σ × ρ` that consumes one event and answers it.  `run` feeds it
a list of events.  Three rules are proved once for every such system:

* `invariant_of_meets`: what every step keeps under a condition on the step holds after every run
  whose steps all meet the condition (`Meets`);
* `run_filter`: if one kind of event acts the same on two related states and every other event
  leaves the relation alone, the answers to that kind of event do not depend on the others;
* `run_simulates`: if every event keeps two systems related and is answered alike by both, they
  answer every run alike.
-/

namespace EventSystem

variable {σ ε ρ : Type*} (step : σ → ε → σ × ρ)

/-- Feed a list of events; collect every event with its answer. -/
def run (s : σ) : List ε → σ × List (ε × ρ)
  | [] => (s, [])
  | e :: es => ((run (step s e).1 es).1, (e, (step s e).2) :: (run (step s e).1 es).2)

/-- Every step of the run from `s` meets the condition `P` in the state it starts from. -/
def Meets (P : σ → ε → Prop) (s : σ) : List ε → Prop
  | [] => True
  | e :: es => P s e ∧ Meets P (step s e).1 es

theorem run_cons (s : σ) (e : ε) (es : List ε) :
    run step s (e :: es) =
      ((run step (step s e).1 es).1, (e, (step s e).2) :: (run step (step s e).1 es).2) := rfl

/-- A condition that no step can violate is met by every run. -/
theorem meets_of_forall {P : σ → ε → Prop} (h : ∀ s e, P s e) (s : σ) (es : List ε) :
    Meets step P s es := by
  induction es generalizing s with
  | nil => trivial
  | cons e es ih => exact ⟨h s e, ih _⟩

/-- **Invariant rule**: a property kept by every step that meets `P` holds after every run whose
steps all meet `P`. -/
theorem invariant_of_meets {P : σ → ε → Prop} {I : σ → Prop}
    (hstep : ∀ s e, I s → P s e → I (step s e).1) {s : σ} (hs : I s) {es : List ε}
    (h : Meets step P s es) : I (run step s es).1 := by
  induction es generalizing s with
  | nil => exact hs
  | cons e es ih => exact ih (hstep s e hs h.1) h.2

/-- The invariant rule without a condition on the steps. -/
theorem invariant {I : σ → Prop} (hstep : ∀ s e, I s → I (step s e).1) {s : σ} (hs : I s)
    (es : List ε) : I (run step s es).1 :=
  invariant_of_meets step (P := fun _ _ => True) (fun s e hi _ => hstep s e hi) hs
    (meets_of_forall step (fun _ _ => trivial) s es)

/-- **Unwinding rule**: let `R` relate the states of two copies of the system.  If an event of the
chosen kind keeps `R` and is answered alike in related states, and any other event taken by the
first copy alone keeps `R`, then a run and the run of its chosen events alone end in related states
and answer the chosen events alike. -/
theorem run_filter {R : σ → σ → Prop} (chosen : ε → Bool)
    (hchosen : ∀ s t e, R s t → chosen e = true →
      R (step s e).1 (step t e).1 ∧ (step s e).2 = (step t e).2)
    (hother : ∀ s t e, R s t → chosen e = false → R (step s e).1 t)
    {s t : σ} (h : R s t) (es : List ε) :
    R (run step s es).1 (run step t (es.filter chosen)).1 ∧
      (run step s es).2.filter (fun a => chosen a.1) = (run step t (es.filter chosen)).2 := by
  induction es generalizing s t with
  | nil => exact ⟨h, rfl⟩
  | cons e es ih =>
    cases he : chosen e with
    | true =>
      -- both copies take the event
      obtain ⟨hR, hans⟩ := hchosen s t e h he
      obtain ⟨hR', hrest⟩ := ih hR
      rw [List.filter_cons_of_pos he, run_cons, run_cons]
      refine ⟨hR', ?_⟩
      rw [List.filter_cons_of_pos (by exact he), hrest, hans]
    | false =>
      -- only the first copy takes it, and its answer is filtered out
      obtain ⟨hR', hrest⟩ := ih (hother s t e h he)
      rw [List.filter_cons_of_neg (by simp [he]), run_cons]
      refine ⟨hR', ?_⟩
      rw [List.filter_cons_of_neg (by simp [he]), hrest]

/-- **Simulation rule**: let `R` relate the states of two systems.  If every event keeps `R` and is
answered alike in related states, then so is every run. -/
theorem run_simulates {τ : Type*} {step' : τ → ε → τ × ρ} {R : σ → τ → Prop}
    (hstep : ∀ s t e, R s t → R (step s e).1 (step' t e).1 ∧ (step s e).2 = (step' t e).2)
    {s : σ} {t : τ} (h : R s t) (es : List ε) :
    R (run step s es).1 (run step' t es).1 ∧ (run step s es).2 = (run step' t es).2 := by
  induction es generalizing s t with
  | nil => exact ⟨h, rfl⟩
  | cons e es ih =>
    obtain ⟨hR, hans⟩ := hstep s t e h
    obtain ⟨hR', hrest⟩ := ih hR
    rw [run_cons, run_cons, hans, hrest]
    exact ⟨hR', rfl⟩

end EventSystem
