import Mathlib.Algebra.Ring.Nat
import Endweave.Lib.Locality

/-!
# Loops over untrusted data

How often a loop runs is not bounded by a count that stands in the data, but by the data itself when
every round consumes some of it.  `Pays m cost` says that `m` consumes at least `cost a` for the `a`
it returns; it has one rule for each program constructor, and `Consumes m` is the case of a cost of
one, found by the shape of `m`.

`rounds` counts the rounds of a loop with a count and `loopRounds` those of a loop without one, also
where it fails: there are no more of them than data left, and one (`rounds_le`, `loopRounds_le`).  A
`loop` is cut off behind a number of rounds, where something else takes over; with more rounds than
data left that is never reached (`agrees_loop`).
-/

namespace Wire

variable {ε β α γ σ : Type}

/-! ### What a value costs -/

/-- On any data: `m` consumes at least `cost a` where it returns `a`. -/
def Pays (m : Parser ε β α) (cost : α → Nat) : Prop := Takes m fun bs a => cost a ≤ bs.length

section Pays

variable {m n : Parser ε β α} {k : α → Parser ε β γ} {cost : α → Nat} {total : γ → Nat}

theorem Pays.of_ok (hm : Pays m cost) {data : List β} {pos : Nat} {a : α} {c : Cursor β}
    (hpos : pos ≤ data.length) (h : m ⟨data, pos⟩ = .ok a c) : pos + cost a ≤ c.pos := by
  have hc : Cursor.Within ⟨data, pos⟩ := hpos
  obtain ⟨bs, suf, _, rfl, hcost⟩ := Takes.of_ok hm hc h
  exact Nat.add_le_add_left hcost pos

theorem Pays.mono {cost' : α → Nat} (hm : Pays m cost) (h : ∀ a, cost' a ≤ cost a) :
    Pays m cost' :=
  Takes.mono hm fun _ a ha => Nat.le_trans (h a) ha

theorem Pays.pure {a : α} (h : cost a = 0) : Pays (pure a : Parser ε β α) cost :=
  Takes.pure (h ▸ Nat.zero_le _)

theorem Pays.throw (e : ε) : Pays (throw e : Parser ε β α) cost := Takes.throw e

/-- What `m` has paid is taken off what is left to pay. -/
theorem Pays.bind (hm : Pays m cost) (hk : ∀ a, Pays (k a) fun b => total b - cost a) :
    Pays (m >>= k) total := by
  apply Takes.bind hm
  intro bs a ha
  apply Takes.mono (hk a)
  intro bs' b (hb : total b - cost a ≤ bs'.length)
  rw [List.length_append]
  omega

theorem Local.pays_zero [Local m] : Pays m fun _ => 0 :=
  Takes.mono (Local.takes (m := m)) fun _ _ _ => Nat.zero_le _

/-- What `m` consumes is not needed. -/
theorem Pays.skip [Local m] (hk : ∀ a, Pays (k a) total) : Pays (m >>= k) total :=
  Pays.bind Local.pays_zero hk

theorem Pays.map {f : α → γ} (hm : Pays m fun a => total (f a)) : Pays (f <$> m) total := by
  rw [map_eq_pure_bind]
  apply Pays.bind hm
  intro a
  exact Pays.pure (Nat.sub_self _)

theorem Pays.ite {p : Prop} [Decidable p] (hm : Pays m cost) (hn : Pays n cost) :
    Pays (if p then m else n) cost := by
  split_ifs
  · exact hm
  · exact hn

theorem Pays.collect (hm : Pays m cost) (count : Nat) :
    Pays (collect m count) fun as => (as.map cost).sum := by
  induction count with
  | zero => exact Pays.pure rfl
  | succ count ih =>
    apply Pays.bind hm
    intro a
    apply Pays.bind ih
    intro as
    apply Pays.pure
    rw [List.map_cons, List.sum_cons]
    omega

end Pays

/-! ### Parsers that consume something -/

/-- `m` does not return without having consumed something. -/
class Consumes (m : Parser ε β α) : Prop where
  pays : Pays m fun _ => 1

section Consumes

variable {m : Parser ε β α} {k : α → Parser ε β γ}

theorem Consumes.of_takes {Q : List β → α → Prop} (hm : Takes m Q)
    (hQ : ∀ bs a, Q bs a → bs ≠ []) : Consumes m :=
  ⟨Takes.mono hm fun bs a h => List.length_pos_iff.mpr (hQ bs a h)⟩

theorem Consumes.of_ok [Consumes m] {c c' : Cursor β} {a : α} (hc : c.Within)
    (h : m c = .ok a c') : c'.Within ∧ c'.rest.length < c.rest.length := by
  obtain ⟨bs, suf, hrest, rfl, hpaid⟩ := Takes.of_ok (Consumes.pays (m := m)) hc h
  have hpos : 1 ≤ bs.length := hpaid
  rw [Cursor.rest_advance_of_append hrest, hrest, List.length_append]
  exact ⟨hc.advance_of_append hrest, by omega⟩

instance [Consumes m] [∀ a, Local (k a)] : Consumes (m >>= k) := by
  constructor
  apply Pays.bind Consumes.pays
  intro a
  exact Local.pays_zero

/-- Elements that consume something are no more than what they consume. -/
theorem Consumes.collect_pays [Consumes m] (count : Nat) : Pays (collect m count) List.length := by
  apply (Pays.collect (Consumes.pays (m := m)) count).mono
  intro as
  have hsum : (as.map fun _ => 1).sum = as.length := by
    rw [List.map_const', List.sum_replicate_nat, Nat.mul_one]
  exact Nat.le_of_eq hsum.symm

end Consumes

/-! ### Loops with a count -/

/-- How often `collect m count` runs `m`, also where it fails. -/
def rounds (m : Parser ε β α) : Nat → Cursor β → Nat
  | 0, _ => 0
  | count + 1, c =>
    match m c with
    | .ok _ c' => rounds m count c' + 1
    | .error _ _ => 1

/-- The rounds of a loop that returns are its elements; one that fails has failed in the last. -/
theorem rounds_spec (m : Parser ε β α) (count : Nat) (c : Cursor β) :
    match collect m count c with
    | .ok as _ => rounds m count c = as.length
    | .error e c' => ∃ n as c₁, rounds m count c = n + 1 ∧ collect m n c = .ok as c₁ ∧
        m c₁ = .error e c' := by
  induction count generalizing c with
  | zero => exact rfl
  | succ count ih =>
    unfold collect rounds
    cases h : m c with
    | error e c' =>
      rw [bind_error h]
      exact ⟨0, [], c, rfl, rfl, h⟩
    | ok a c' =>
      rw [bind_ok h]
      have hrest := ih c'
      cases has : collect m count c' with
      | error e c'' =>
        rw [has] at hrest
        obtain ⟨n, as, c₁, hn, hok, herror⟩ := hrest
        rw [bind_error has]
        refine ⟨n + 1, a :: as, c₁, congrArg (· + 1) hn, ?_, herror⟩
        show (m >>= fun a => collect m n >>= fun as => pure (a :: as)) c = _
        rw [bind_ok h, bind_ok hok]
        rfl
      | ok as c'' =>
        rw [has] at hrest
        rw [bind_ok has]
        exact congrArg (· + 1) hrest

/-- Whatever the count, there are no more rounds than data left, and one. -/
theorem rounds_le {m : Parser ε β α} [Consumes m] (count : Nat) {c : Cursor β} (hc : c.Within) :
    rounds m count c ≤ c.rest.length + 1 := by
  induction count generalizing c with
  | zero => exact Nat.zero_le _
  | succ count ih =>
    unfold rounds
    cases h : m c with
    | error e c' => exact Nat.le_add_left 1 _
    | ok a c' =>
      obtain ⟨hc', hlt⟩ := Consumes.of_ok hc h
      have hnext := ih hc'
      show rounds m count c' + 1 ≤ _
      omega

/-! ### Loops without a count -/

/-- A loop whose rounds end it with a value or go on in another state.  Behind `limit` rounds,
`more` takes over. -/
def loop (round : σ → Parser ε β (σ ⊕ α)) (more : σ → Parser ε β α) : Nat → σ → Parser ε β α
  | 0, s => more s
  | limit + 1, s => do
    match ← round s with
    | .inl s' => loop round more limit s'
    | .inr a => pure a

/-- How often the loop runs `round`, also where it fails. -/
def loopRounds (round : σ → Parser ε β (σ ⊕ α)) : Nat → σ → Cursor β → Nat
  | 0, _, _ => 0
  | limit + 1, s, c =>
    match round s c with
    | .ok (.inl s') c' => loopRounds round limit s' c' + 1
    | _ => 1

section Loop

variable {round round' : σ → Parser ε β (σ ⊕ α)} {more more' : σ → Parser ε β α}

/-- Whatever the limit, there are no more rounds than data left, and one. -/
theorem loopRounds_le [∀ s, Consumes (round s)] (limit : Nat) (s : σ) {c : Cursor β}
    (hc : c.Within) : loopRounds round limit s c ≤ c.rest.length + 1 := by
  induction limit generalizing s c with
  | zero => exact Nat.zero_le _
  | succ limit ih =>
    unfold loopRounds
    split
    · rename_i s' c' h
      obtain ⟨hc', hlt⟩ := Consumes.of_ok hc h
      have hnext := ih s' hc'
      show loopRounds round limit s' c' + 1 ≤ _
      omega
    · exact Nat.le_add_left 1 _

/-- With more rounds than data left, what takes over behind them makes no difference. -/
theorem agrees_loop [∀ s, Consumes (round s)] {n limit limit' : Nat} (hlimit : n ≤ limit)
    (hlimit' : n ≤ limit') (s : σ) :
    Agrees n (loop round more limit s) (loop round more' limit' s) := by
  induction n generalizing s limit limit' with
  | zero => exact fun c _ hlen => absurd hlen (Nat.not_lt_zero _)
  | succ n ih =>
    obtain ⟨l, rfl⟩ : ∃ l, limit = l + 1 := ⟨limit - 1, by omega⟩
    obtain ⟨l', rfl⟩ : ∃ l', limit' = l' + 1 := ⟨limit' - 1, by omega⟩
    have hround : Takes (round s) fun bs _ => bs ≠ [] :=
      Takes.mono Consumes.pays fun bs _ h => List.length_pos_iff.mp h
    unfold loop
    apply Agrees.consume hround
    intro step
    cases step with
    | inl s' => exact ih (by omega) (by omega) s'
    | inr a => exact Agrees.refl n _

/-- Rounds that do the same make loops that do the same. -/
theorem Agrees.loop {n : Nat} (hround : ∀ s, Agrees n (round s) (round' s))
    (hadv : ∀ s, Advances (round s)) (limit : Nat) (s : σ) :
    Agrees n (loop round more limit s) (loop round' more limit s) := by
  induction limit generalizing s with
  | zero => exact Agrees.refl n _
  | succ limit ih =>
    unfold Wire.loop
    apply (hround s).bind (hadv s)
    intro step
    cases step with
    | inl s' => exact ih s'
    | inr a => exact Agrees.refl n _

end Loop

end Wire
