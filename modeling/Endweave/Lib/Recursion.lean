import Endweave.Lib.Wire

/-!
# Recursive parsers

`nested fail body calls` is the parser that calls itself in `body`, as deep as `calls` allows.

`Agrees n m m'` compares two parsers: they do the same while less than `n` is left.  It has one rule
for each program constructor; `Agrees.consume` is the one that goes down.
-/

namespace Wire

variable {ε β α γ : Type}

/-! ### Parsers whose cursor moves ahead -/

/-- The cursor only moves ahead within the data, whether `m` returns or fails. -/
def Advances (m : Parser ε β α) : Prop := Takes m fun _ _ => True

theorem Takes.advances {m : Parser ε β α} {Q : List β → α → Prop} (h : Takes m Q) : Advances m :=
  h.mono fun _ _ _ => trivial

theorem Advances.pure (a : α) : Advances (pure a : Parser ε β α) := Takes.pure trivial

section Advances

variable {m : Parser ε β α} {k : α → Parser ε β γ}

theorem Advances.bind (hm : Advances m) (hk : ∀ a, Advances (k a)) : Advances (m >>= k) :=
  Takes.bind hm fun _ a _ => hk a

theorem Advances.map (hm : Advances m) (f : α → γ) : Advances (f <$> m) := by
  rw [map_eq_pure_bind]
  exact hm.bind fun a => Advances.pure (f a)

theorem Advances.collect (hm : Advances m) (n : Nat) : Advances (collect m n) := by
  induction n with
  | zero => exact Advances.pure []
  | succ n ih => exact hm.bind fun _ => ih.bind fun _ => Advances.pure _

theorem Advances.of_ok (hm : Advances m) {c c' : Cursor β} {a : α} (hc : c.Within)
    (h : m c = .ok a c') : c'.Within ∧ c'.rest.length ≤ c.rest.length := by
  obtain ⟨bs, suf, hrest, rfl, _⟩ := Takes.of_ok hm hc h
  rw [Cursor.rest_advance_of_append hrest, hrest, List.length_append]
  exact ⟨hc.advance_of_append hrest, by omega⟩

/-- Where the parser stops, whether it returns or fails. -/
theorem Advances.final (hm : Advances m) {c : Cursor β} (hc : c.Within) :
    (final (m c)).data = c.data ∧ c.pos ≤ (final (m c)).pos ∧ (final (m c)).Within := by
  cases h : m c with
  | error e c' => exact hm.of_error hc h
  | ok a c' =>
    obtain ⟨bs, suf, hrest, rfl, _⟩ := Takes.of_ok hm hc h
    exact ⟨rfl, Nat.le_add_right .., hc.advance_of_append hrest⟩

end Advances

/-! ### Parsers that agree on short data -/

/-- The two parsers do the same while less than `n` is left. -/
def Agrees (n : Nat) (m m' : Parser ε β α) : Prop :=
  ∀ c : Cursor β, c.Within → c.rest.length < n → m c = m' c

section Agrees

variable {n : Nat} {m m' : Parser ε β α} {k k' : α → Parser ε β γ}

theorem Agrees.refl (n : Nat) (m : Parser ε β α) : Agrees n m m := fun _ _ _ => rfl

theorem Agrees.bind (hm : Agrees n m m') (hadv : Advances m) (hk : ∀ a, Agrees n (k a) (k' a)) :
    Agrees n (m >>= k) (m' >>= k') := by
  intro c hc hlen
  have hsame := hm c hc hlen
  cases h : m c with
  | error e c' =>
    rw [bind_error h, bind_error (hsame ▸ h)]
  | ok a c' =>
    obtain ⟨hc', hle⟩ := hadv.of_ok hc h
    rw [bind_ok h, bind_ok (hsame ▸ h)]
    exact hk a c' hc' (by omega)

theorem Agrees.map (hm : Agrees n m m') (hadv : Advances m) (f : α → γ) :
    Agrees n (f <$> m) (f <$> m') := by
  rw [map_eq_pure_bind, map_eq_pure_bind]
  exact hm.bind hadv fun _ => Agrees.refl n _

/-- Behind something consumed the parsers need to agree on shorter data only. -/
theorem Agrees.consume (hm : Takes m fun bs _ => bs ≠ []) (hk : ∀ a, Agrees n (k a) (k' a)) :
    Agrees (n + 1) (m >>= k) (m >>= k') := by
  intro c hc hlen
  cases h : m c with
  | error e c' => rw [bind_error h, bind_error h]
  | ok a c' =>
    obtain ⟨bs, suf, hrest, rfl, hne⟩ := hm.of_ok hc h
    have hpos := List.length_pos_iff.mpr hne
    have hlen' := Cursor.rest_advance_of_append hrest
    rw [hrest, List.length_append] at hlen
    rw [bind_ok h, bind_ok h]
    exact hk a _ (hc.advance_of_append hrest) (by rw [hlen']; omega)

theorem Agrees.ite {m₂ m₂' : Parser ε β α} {p : Prop} [Decidable p] (hm : Agrees n m m')
    (hm₂ : Agrees n m₂ m₂') : Agrees n (if p then m else m₂) (if p then m' else m₂') := by
  split_ifs
  · exact hm
  · exact hm₂

theorem Agrees.collect (hm : Agrees n m m') (hadv : Advances m) (count : Nat) :
    Agrees n (collect m count) (collect m' count) := by
  induction count with
  | zero => exact Agrees.refl n _
  | succ count ih =>
    exact hm.bind hadv fun _ => ih.bind (hadv.collect count) fun _ => Agrees.refl n _

end Agrees

/-! ### Nested calls -/

/-- `body`, which calls itself, with so many calls that may be nested; one more fails. -/
def nested (fail : ε) (body : Parser ε β α → Parser ε β α) : Nat → Parser ε β α
  | 0 => throw fail
  | calls + 1 => body (nested fail body calls)

end Wire
