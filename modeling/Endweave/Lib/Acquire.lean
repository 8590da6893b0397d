import Endweave.Lib.EventSystem
import Mathlib.Data.List.Nodup
import Mathlib.Data.Set.Basic

/-!
# Histories in which things are acquired before they are used

A history is the list of what a system did.  An action may acquire a thing, or use one.
`Orderly acquires uses done h` says that `h`, done after the things in `done` have been acquired,
acquires nothing twice and uses nothing before it is acquired (`Orderly.nodup`, `Orderly.before`).

It is checked action by action, so that a run is orderly when each of its steps is
(`orderly_history`).
-/

namespace EventSystem

variable {η κ : Type*}

/-- What the actions of a history acquire, in order. -/
def acquired (acquires : η → Option κ) (h : List η) : List κ := h.filterMap acquires

/-- After `done`, the history acquires nothing twice and uses only what has been acquired. -/
def Orderly (acquires uses : η → Option κ) : Set κ → List η → Prop
  | _, [] => True
  | done, x :: h => (∀ k, acquires x = some k → k ∉ done) ∧ (∀ k, uses x = some k → k ∈ done) ∧
      Orderly acquires uses (done ∪ {k | acquires x = some k}) h

section Orderly

variable {acquires uses : η → Option κ} {done : Set κ} {h h' : List η}

theorem mem_acquired {k : κ} : k ∈ acquired acquires h ↔ ∃ x ∈ h, acquires x = some k :=
  List.mem_filterMap

theorem acquired_append :
    acquired acquires (h ++ h') = acquired acquires h ++ acquired acquires h' :=
  List.filterMap_append

/-- What a first action and the rest acquire. -/
theorem union_acquired_cons (done : Set κ) (x : η) (h : List η) :
    done ∪ {k | k ∈ acquired acquires (x :: h)} =
      done ∪ {k | acquires x = some k} ∪ {k | k ∈ acquired acquires h} := by
  ext k
  simp only [Set.mem_union, Set.mem_ofPred_eq, mem_acquired, List.mem_cons, exists_eq_or_imp]
  tauto

theorem orderly_append : Orderly acquires uses done (h ++ h') ↔
    Orderly acquires uses done h ∧
      Orderly acquires uses (done ∪ {k | k ∈ acquired acquires h}) h' := by
  induction h generalizing done with
  | nil => simp [Orderly, acquired]
  | cons x h ih =>
    rw [List.cons_append, Orderly, Orderly, ih, union_acquired_cons]
    simp only [and_assoc]

/-- Nothing is acquired twice. -/
theorem Orderly.nodup (horder : Orderly acquires uses done h) :
    (acquired acquires h).Nodup ∧ ∀ k ∈ acquired acquires h, k ∉ done := by
  induction h generalizing done with
  | nil => simp [acquired]
  | cons x h ih =>
    obtain ⟨hnew, _, hrest⟩ := horder
    obtain ⟨hnodup, hdone⟩ := ih hrest
    have hleft : ∀ k ∈ acquired acquires h, k ∉ done := fun k hk hin => hdone k hk (Or.inl hin)
    rw [acquired, List.filterMap_cons]
    cases hx : acquires x with
    | none => exact ⟨hnodup, hleft⟩
    | some k₀ =>
      -- the rest does not acquire what `x` has acquired
      have hnot : k₀ ∉ acquired acquires h := fun hk => hdone k₀ hk (Or.inr hx)
      refine ⟨List.nodup_cons.mpr ⟨hnot, hnodup⟩, ?_⟩
      rw [List.forall_mem_cons]
      exact ⟨hnew k₀ hx, hleft⟩

/-- Nothing is used before it is acquired. -/
theorem Orderly.before {x : η} {k : κ} (horder : Orderly acquires uses done (h ++ x :: h'))
    (hx : uses x = some k) : k ∈ done ∨ k ∈ acquired acquires h :=
  (orderly_append.mp horder).2.2.1 k hx

/-- Actions that use only what is there. -/
theorem orderly_of_uses (hnone : ∀ x ∈ h, acquires x = none)
    (huses : ∀ x ∈ h, ∀ k, uses x = some k → k ∈ done) :
    Orderly acquires uses done h ∧ acquired acquires h = [] := by
  have hacquired : acquired acquires h = [] := List.filterMap_eq_nil_iff.mpr hnone
  refine ⟨?_, hacquired⟩
  clear hacquired
  induction h generalizing done with
  | nil => trivial
  | cons x h ih =>
    have hx : ∀ k, acquires x = some k → k ∉ done := by
      intro k hk
      rw [hnone x (List.mem_cons_self ..)] at hk
      cases hk
    refine ⟨hx, huses x (List.mem_cons_self ..), ?_⟩
    apply ih fun y hy => hnone y (List.mem_cons_of_mem _ hy)
    exact fun y hy k hk => Or.inl (huses y (List.mem_cons_of_mem _ hy) k hk)

/-- Actions that acquire different new things and use none. -/
theorem orderly_of_acquires (hnone : ∀ x ∈ h, uses x = none)
    (hnodup : (acquired acquires h).Nodup) (hnew : ∀ k ∈ acquired acquires h, k ∉ done) :
    Orderly acquires uses done h := by
  induction h generalizing done with
  | nil => trivial
  | cons x h ih =>
    have hx : ∀ k, uses x = some k → k ∈ done := by
      intro k hk
      rw [hnone x (List.mem_cons_self ..)] at hk
      cases hk
    have hmem : ∀ k, acquires x = some k → k ∈ acquired acquires (x :: h) :=
      fun k hk => mem_acquired.mpr ⟨x, List.mem_cons_self .., hk⟩
    refine ⟨fun k hk => hnew k (hmem k hk), hx, ?_⟩
    rw [← List.singleton_append, acquired_append] at hnodup hnew
    apply ih (fun y hy => hnone y (List.mem_cons_of_mem _ hy)) (List.Nodup.of_append_right hnodup)
    rintro k hk (hdone | hsame)
    · exact hnew k (List.mem_append_right _ hk) hdone
    · have hfirst : k ∈ acquired acquires [x] :=
        mem_acquired.mpr ⟨x, List.mem_singleton_self x, hsame⟩
      exact List.disjoint_of_nodup_append hnodup hfirst hk

end Orderly

/-! ### Histories of runs -/

variable {σ ε ρ : Type*} (step : σ → ε → σ × ρ)

/-- What is done in a run, when `emits s e` is done in the step from `s` on `e`. -/
def history (emits : σ → ε → List η) (s : σ) : List ε → List η
  | [] => []
  | e :: es => emits s e ++ history emits (step s e).1 es

variable {emits : σ → ε → List η} {P : σ → ε → Prop}

/-- **Run rule**: when every step that meets `P` is orderly and keeps a relation between the state
and what has been acquired, so is every run whose steps all meet `P`. -/
theorem orderly_history {acquires uses : η → Option κ} {R : Set κ → σ → Prop}
    (hstep : ∀ done s e, R done s → P s e → Orderly acquires uses done (emits s e) ∧
      R (done ∪ {k | k ∈ acquired acquires (emits s e)}) (step s e).1)
    {done : Set κ} {s : σ} (hs : R done s) {es : List ε} (h : Meets step P s es) :
    Orderly acquires uses done (history step emits s es) := by
  induction es generalizing done s with
  | nil => trivial
  | cons e es ih =>
    obtain ⟨horder, hR⟩ := hstep done s e hs h.1
    exact orderly_append.mpr ⟨horder, ih hR h.2⟩

/-- What every step emits alone. -/
theorem forall_mem_history {I : σ → Prop} {Q : η → Prop} (hstep : ∀ s e, I s → I (step s e).1)
    (hemits : ∀ s e, I s → ∀ x ∈ emits s e, Q x) {s : σ} (hs : I s) (es : List ε) :
    ∀ x ∈ history step emits s es, Q x := by
  induction es generalizing s with
  | nil => exact fun x hx => absurd hx List.not_mem_nil
  | cons e es ih =>
    intro x hx
    rcases List.mem_append.mp hx with hx | hx
    · exact hemits s e hs x hx
    · exact ih (hstep s e hs) x hx

end EventSystem
