import Endweave.Lib.Wire

/-!
# Two runs of one program

`Relates strict R m`: where a run of `m` returns, the run from a related state returns the same
value in a related state.  When `strict` holds, failures are matched alike; otherwise nothing is
said of the second run where the first one fails.

`Relates` is a class with one instance for each program constructor: what holds of the operations of
a program holds of the program, by its shape.  With the relation as a parameter one walk through a
program answers every such question about it: what it does not look at, what it leaves alone, what
it does with data that goes on behind what it reads.
-/

namespace Wire

variable {ε σ α β γ : Type}

/-- From related states, `m` returns the same value in related states; if `strict`, it also fails
alike. -/
class Relates (strict : Prop) (R : σ → σ → Prop) (m : EStateM ε σ α) : Prop where
  spec : ∀ s t, R s t →
    match m s with
    | .ok a s' => ∃ t', m t = .ok a t' ∧ R s' t'
    | .error e s' => strict → ∃ t', m t = .error e t' ∧ R s' t'

section Relates

variable {strict : Prop} {R : σ → σ → Prop} {m n : EStateM ε σ α} {k : α → EStateM ε σ γ}

theorem Relates.of_ok (h : Relates strict R m) {s t s' : σ} {a : α} (hR : R s t)
    (hok : m s = .ok a s') : ∃ t', m t = .ok a t' ∧ R s' t' := by
  have hspec := h.spec s t hR
  rwa [hok] at hspec

theorem Relates.of_error (h : Relates strict R m) (hstrict : strict) {s t s' : σ} {e : ε}
    (hR : R s t) (herror : m s = .error e s') : ∃ t', m t = .error e t' ∧ R s' t' := by
  have hspec := h.spec s t hR
  rw [herror] at hspec
  exact hspec hstrict

instance (a : α) : Relates strict R (pure a : EStateM ε σ α) := ⟨fun _ t hR => ⟨t, rfl, hR⟩⟩

instance (e : ε) : Relates strict R (throw e : EStateM ε σ α) := ⟨fun _ t hR _ => ⟨t, rfl, hR⟩⟩

theorem Relates.bind (hm : Relates strict R m) (hk : ∀ a, Relates strict R (k a)) :
    Relates strict R (m >>= k) := by
  constructor
  intro s t hR
  have hfirst := hm.spec s t hR
  cases hs : m s with
  | error e s' =>
    rw [hs] at hfirst
    rw [bind_error hs]
    intro hstrict
    obtain ⟨t', ht, hR'⟩ := hfirst hstrict
    exact ⟨t', bind_error ht, hR'⟩
  | ok a s' =>
    rw [hs] at hfirst
    obtain ⟨t', ht, hR'⟩ := hfirst
    rw [bind_ok hs, bind_ok ht]
    exact (hk a).spec s' t' hR'

instance [Relates strict R m] [∀ a, Relates strict R (k a)] : Relates strict R (m >>= k) :=
  Relates.bind inferInstance inferInstance

instance [Relates strict R m] (f : α → γ) : Relates strict R (f <$> m) := by
  rw [map_eq_pure_bind]
  infer_instance

instance [Relates strict R m] : Relates strict R (discard m) :=
  inferInstanceAs (Relates strict R (_ <$> m))

instance {p : Prop} [Decidable p] [Relates strict R m] [Relates strict R n] :
    Relates strict R (if p then m else n) := by
  split_ifs <;> infer_instance

instance [Relates strict R m] (count : Nat) : Relates strict R (collect m count) := by
  induction count with
  | zero => exact inferInstanceAs (Relates strict R (pure []))
  | succ count ih =>
    unfold collect
    infer_instance

instance {m : EStateM ε σ Unit} [Relates strict R m] (count : Nat) :
    Relates strict R (repeatM m count) := by
  induction count with
  | zero => exact inferInstanceAs (Relates strict R (pure ()))
  | succ count ih =>
    unfold repeatM
    infer_instance

instance {f : β → EStateM ε σ Unit} [∀ b, Relates strict R (f b)] (bs : List β) :
    Relates strict R (each f bs) := by
  induction bs with
  | nil => exact inferInstanceAs (Relates strict R (pure ()))
  | cons b bs ih =>
    unfold each
    infer_instance

end Relates

end Wire
