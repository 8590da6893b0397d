import Endweave.Lib.Recursion

/-!
# Local parsers and appending printers

A parser is `Local` when what it returns rests on nothing but what it consumes: what it has consumed
on some data it reads in front of any other suffix as well.  A printer `Appends` when it prints the
same wherever the output stands, or fails wherever it stands.

Both are classes with one instance for each program constructor, so that a parser or a printer is
found to be one by its shape.  Recursion needs an argument of its own: `local_nested`.
-/

namespace Wire

variable {ε β α γ : Type}

/-! ### Local parsers -/

/-- What `m` consumes, it reads in front of any suffix. -/
class Local (m : Parser ε β α) : Prop where
  takes : Takes m (Reads m)

section Local

variable {m n : Parser ε β α} {k : α → Parser ε β γ}

theorem Local.advances [Local m] : Advances m := (Local.takes (m := m)).advances

/-- Data behind the end changes neither the value nor where the parser stops. -/
theorem Local.ok_append [Local m] {data : List β} {pos : Nat} {a : α} {c : Cursor β}
    (hpos : pos ≤ data.length) (h : m ⟨data, pos⟩ = .ok a c) :
    c.data = data ∧ pos ≤ c.pos ∧ c.pos ≤ data.length ∧
      ∀ suf, m ⟨data ++ suf, pos⟩ = .ok a ⟨data ++ suf, c.pos⟩ := by
  have hc : Cursor.Within ⟨data, pos⟩ := hpos
  obtain ⟨bs, tail, hrest, rfl, hreads⟩ := Local.takes.of_ok hc h
  refine ⟨rfl, Nat.le_add_right .., hc.advance_of_append hrest, fun suf => ?_⟩
  have hlonger : Cursor.rest ⟨data ++ suf, pos⟩ = bs ++ (tail ++ suf) := by
    rw [← List.append_assoc, ← hrest]
    exact List.drop_append_of_le_length hpos
  have hle : pos ≤ (data ++ suf).length := by
    rw [List.length_append]
    omega
  exact hreads _ _ hle hlonger

instance (a : α) : Local (pure a : Parser ε β α) := ⟨Takes.pure (Reads.pure a)⟩

instance (e : ε) : Local (throw e : Parser ε β α) := ⟨Takes.throw e⟩

theorem Local.bind (hm : Local m) (hk : ∀ a, Local (k a)) : Local (m >>= k) := by
  constructor
  apply Takes.bind hm.takes
  intro bs a hread
  apply (hk a).takes.mono
  intro bs' b hread'
  exact hread.bind hread'

instance [Local m] [∀ a, Local (k a)] : Local (m >>= k) := Local.bind inferInstance inferInstance

instance [Local m] (f : α → γ) : Local (f <$> m) := by
  rw [map_eq_pure_bind]
  infer_instance

instance [Local m] : Local (discard m) := inferInstanceAs (Local (_ <$> m))

instance {p : Prop} [Decidable p] [Local m] [Local n] : Local (if p then m else n) := by
  split_ifs
  · infer_instance
  · infer_instance

instance [Local m] (count : Nat) : Local (collect m count) := by
  induction count with
  | zero => exact inferInstanceAs (Local (pure []))
  | succ count ih =>
    unfold collect
    infer_instance

end Local

/-! ### Recursion -/

/-- A parser that calls itself is local when its body is, given a local parser to call. -/
theorem local_nested {body : Parser ε β α → Parser ε β α} (fail : ε)
    (hbody : ∀ m, Local m → Local (body m)) (calls : Nat) : Local (nested fail body calls) := by
  induction calls with
  | zero => exact inferInstanceAs (Local (throw fail))
  | succ calls ih => exact hbody _ ih

/-! ### Appending printers -/

/-- `w` fails, whatever has been printed before. -/
def Fails (w : Printer ε β Unit) : Prop := ∀ out, ∃ e out', w out = .error e out'

/-- `w` prints the same behind any output, or always fails. -/
class Appends (w : Printer ε β Unit) : Prop where
  writes_or_fails : (∃ bs, Writes w bs) ∨ Fails w

section Appends

variable {w u : Printer ε β Unit} {k : Unit → Printer ε β Unit}

theorem Writes.appends {bs : List β} (h : Writes w bs) : Appends w := ⟨Or.inl ⟨bs, h⟩⟩

theorem Appends.writes_of_ok [Appends w] {out out' : List β} (h : w out = .ok () out') :
    Writes w (written w) := by
  rcases Appends.writes_or_fails (w := w) with ⟨bs, hw⟩ | hfails
  · rwa [hw.written]
  · obtain ⟨e, out₂, herror⟩ := hfails out
    rw [herror] at h
    cases h

/-- What was printed is what the printer prints. -/
theorem Appends.of_ok [Appends w] {out out' : List β} (h : w out = .ok () out') :
    out' = out ++ written w := by
  rw [Appends.writes_of_ok h] at h
  exact (EStateM.Result.ok.inj h).2.symm

instance : Appends (pure () : Printer ε β Unit) := Writes.pure.appends

instance (e : ε) : Appends (throw e : Printer ε β Unit) := ⟨Or.inr fun out => ⟨e, out, rfl⟩⟩

instance [Appends w] [Appends (k ())] : Appends (w >>= k) := by
  constructor
  rcases Appends.writes_or_fails (w := w) with ⟨bs, hw⟩ | hfails
  · rcases Appends.writes_or_fails (w := k ()) with ⟨bs', hk⟩ | hfails
    · exact Or.inl ⟨bs ++ bs', hw.bind hk⟩
    · refine Or.inr fun out => ?_
      rw [bind_ok (hw out)]
      exact hfails _
  · refine Or.inr fun out => ?_
    obtain ⟨e, out', herror⟩ := hfails out
    exact ⟨e, out', bind_error herror⟩

instance {p : Prop} [Decidable p] [Appends w] [Appends u] : Appends (if p then w else u) := by
  split_ifs
  · infer_instance
  · infer_instance

instance {f : α → Printer ε β Unit} [∀ a, Appends (f a)] (as : List α) : Appends (each f as) := by
  induction as with
  | nil => exact inferInstanceAs (Appends (pure ()))
  | cons a as ih =>
    unfold each
    infer_instance

end Appends

end Wire
