import Mathlib.Data.List.Basic

/-!
# Reading and writing a stream

A parser takes values off a list through a `Cursor` and keeps the cursor where it stopped when it
fails; a printer appends to a list.  Three triples describe what they do:

* `Reads m bs a`: in front of any suffix, `m` consumes exactly `bs` and returns `a`;
* `Writes w bs`: `w` appends exactly `bs`;
* `Codes w r a`: `r` reads back as `a` what `w` writes; `Rejects w r`: `r` fails on it.

`FailsWith m bs e` is the triple for a parser that fails in front of `bs`.

Each has one rule per program constructor (`pure`, `bind`, a last field, a counted loop), so that a
codec of any number of fields is verified field by field without ever naming its bytes.
`Takes m Q` is about arbitrary data: what `m` returns satisfies `Q` with the bytes it consumed, and
where `m` fails its cursor has only moved ahead.  `Refines m m' P` compares `m` with a parser that
accepts more.  `Compacts w r` is the case where `w` can write
back what `r` returned, in no more room.
-/

namespace Wire

/-! ### Computations with a state that survives failure -/

section EStateM

variable {ε σ α γ : Type}

theorem bind_ok {m : EStateM ε σ α} {k : α → EStateM ε σ γ} {s s' : σ} {a : α}
    (h : m s = .ok a s') : (m >>= k) s = k a s' := by
  show EStateM.bind m k s = _
  rw [EStateM.bind, h]

theorem bind_error {m : EStateM ε σ α} {k : α → EStateM ε σ γ} {s s' : σ} {e : ε}
    (h : m s = .error e s') : (m >>= k) s = .error e s' := by
  show EStateM.bind m k s = _
  rw [EStateM.bind, h]

/-- A sequence that returns has returned in both parts. -/
theorem bind_eq_ok {m : EStateM ε σ α} {k : α → EStateM ε σ γ} {s s'' : σ} {b : γ}
    (h : (m >>= k) s = .ok b s'') : ∃ a s', m s = .ok a s' ∧ k a s' = .ok b s'' := by
  cases hm : m s with
  | error e s' =>
    rw [bind_error hm] at h
    exact absurd h (by simp)
  | ok a s' =>
    rw [bind_ok hm] at h
    exact ⟨a, s', rfl, h⟩

theorem pure_eq_ok_iff {a b : α} {s s' : σ} :
    (pure a : EStateM ε σ α) s = .ok b s' ↔ a = b ∧ s = s' :=
  ⟨EStateM.Result.ok.inj, fun ⟨ha, hs⟩ => ha ▸ hs ▸ rfl⟩

/-- The state a computation ends in, whether it returns or fails. -/
def final (r : EStateM.Result ε σ α) : σ :=
  match r with
  | .ok _ s => s
  | .error _ s => s

@[simp] theorem final_ok (a : α) (s : σ) : final (.ok a s : EStateM.Result ε σ α) = s := rfl

/-- Run `m` `n` times and collect the results. -/
def collect (m : EStateM ε σ α) : Nat → EStateM ε σ (List α)
  | 0 => pure []
  | n + 1 => do
    let a ← m
    let as ← collect m n
    pure (a :: as)

theorem length_of_collect {m : EStateM ε σ α} {n : Nat} {s s' : σ} {as : List α}
    (h : collect m n s = .ok as s') : as.length = n := by
  induction n generalizing s s' as with
  | zero =>
    obtain ⟨rfl, _⟩ := pure_eq_ok_iff.mp h
    rfl
  | succ n ih =>
    obtain ⟨a, s₁, _, h⟩ := bind_eq_ok h
    obtain ⟨as', s₂, has, h⟩ := bind_eq_ok h
    obtain ⟨rfl, _⟩ := pure_eq_ok_iff.mp h
    rw [List.length_cons, ih has]

/-- Run `m` `n` times for its effect. -/
def repeatM (m : EStateM ε σ Unit) : Nat → EStateM ε σ Unit
  | 0 => pure ()
  | n + 1 => do
    m
    repeatM m n

/-- Run `f` on the elements of a list in turn. -/
def each (f : α → EStateM ε σ Unit) : List α → EStateM ε σ Unit
  | [] => pure ()
  | a :: as => do
    f a
    each f as

/-- Each element has been handled by some run. -/
theorem exists_of_mem_each {f : α → EStateM ε σ Unit} {as : List α} {s s' : σ}
    (h : each f as s = .ok () s') : ∀ a ∈ as, ∃ t t', f a t = .ok () t' := by
  induction as generalizing s with
  | nil => exact fun a ha => absurd ha List.not_mem_nil
  | cons b as ih =>
    obtain ⟨_, s₁, hb, h⟩ := bind_eq_ok h
    intro a ha
    rcases List.mem_cons.mp ha with rfl | ha
    · exact ⟨s, s₁, hb⟩
    · exact ih h a ha

end EStateM

/-! ### Cursors -/

/-- A position in a list that is being read. -/
structure Cursor (β : Type) where
  data : List β
  pos : Nat
deriving Repr, DecidableEq

namespace Cursor

variable {β : Type}

/-- What is left to read. -/
def rest (c : Cursor β) : List β := c.data.drop c.pos

/-- The position lies within the data. -/
def Within (c : Cursor β) : Prop := c.pos ≤ c.data.length

/-- Move ahead by `n`. -/
def advance (c : Cursor β) (n : Nat) : Cursor β := { c with pos := c.pos + n }

@[simp] theorem rest_start (data : List β) : rest ⟨data, 0⟩ = data := rfl

@[simp] theorem advance_zero (c : Cursor β) : c.advance 0 = c := rfl

@[simp] theorem data_advance (c : Cursor β) (n : Nat) : (c.advance n).data = c.data := rfl

@[simp] theorem pos_advance (c : Cursor β) (n : Nat) : (c.advance n).pos = c.pos + n := rfl

theorem advance_advance (c : Cursor β) (m n : Nat) :
    (c.advance m).advance n = c.advance (m + n) := by
  rw [advance, advance, advance, Nat.add_assoc]

theorem rest_advance (c : Cursor β) (n : Nat) : (c.advance n).rest = c.rest.drop n := by
  rw [rest, rest, advance, List.drop_drop]

theorem rest_advance_of_append {c : Cursor β} {bs suf : List β} (h : c.rest = bs ++ suf) :
    (c.advance bs.length).rest = suf := by
  rw [rest_advance, h, List.drop_left]

theorem length_rest (c : Cursor β) : c.rest.length = c.data.length - c.pos := by
  rw [rest, List.length_drop]

theorem within_start (data : List β) : Within ⟨data, 0⟩ := Nat.zero_le _

theorem Within.advance {c : Cursor β} (hc : c.Within) {n : Nat} (hn : n ≤ c.rest.length) :
    (c.advance n).Within := by
  rw [length_rest] at hn
  rw [Within, data_advance, pos_advance]
  unfold Within at hc
  omega

theorem Within.advance_of_append {c : Cursor β} (hc : c.Within) {bs suf : List β}
    (h : c.rest = bs ++ suf) : (c.advance bs.length).Within :=
  hc.advance (by rw [h, List.length_append]; omega)

end Cursor

/-- A computation that reads through a cursor. -/
abbrev Parser (ε β α : Type) := EStateM ε (Cursor β) α

/-- A computation that appends to a list. -/
abbrev Printer (ε β α : Type) := EStateM ε (List β) α

variable {ε β α γ : Type}

/-! ### Reading -/

/-- In front of any suffix, `m` consumes exactly `bs` and returns `a`. -/
def Reads (m : Parser ε β α) (bs : List β) (a : α) : Prop :=
  ∀ c suf, c.Within → c.rest = bs ++ suf → m c = .ok a (c.advance bs.length)

theorem Reads.pure (a : α) : Reads (pure a : Parser ε β α) [] a := fun _ _ _ _ => rfl

theorem Reads.bind {m : Parser ε β α} {k : α → Parser ε β γ} {bs bs' : List β} {a : α} {b : γ}
    (hm : Reads m bs a) (hk : Reads (k a) bs' b) : Reads (m >>= k) (bs ++ bs') b := by
  intro c suf hc h
  rw [List.append_assoc] at h
  rw [bind_ok (hm c _ hc h),
    hk _ suf (hc.advance_of_append h) (Cursor.rest_advance_of_append h),
    Cursor.advance_advance, List.length_append]

/-- A parser that ends by computing its result from the last value read. -/
theorem Reads.bind_pure {m : Parser ε β α} {k : α → Parser ε β γ} {bs : List β} {a : α} {b : γ}
    (hm : Reads m bs a) (hk : k a = Pure.pure b) : Reads (m >>= k) bs b := by
  rw [← List.append_nil bs]
  exact hm.bind (hk ▸ Reads.pure b)

theorem Reads.map {m : Parser ε β α} {bs : List β} {a : α} (hm : Reads m bs a) (f : α → γ) :
    Reads (f <$> m) bs (f a) := by
  intro c suf hc h
  show EStateM.map f m c = _
  rw [EStateM.map, hm c suf hc h]

/-- A run in front of `bs` has read it. -/
theorem Reads.of_ok {m : Parser ε β α} {bs suf : List β} {a a' : α} {c c' : Cursor β}
    (h : Reads m bs a) (hc : c.Within) (hrest : c.rest = bs ++ suf) (hm : m c = .ok a' c') :
    a' = a ∧ c'.Within ∧ c'.rest = suf := by
  rw [h c suf hc hrest] at hm
  obtain ⟨ha, hcursor⟩ := EStateM.Result.ok.inj hm
  rw [← hcursor]
  exact ⟨ha.symm, hc.advance_of_append hrest, Cursor.rest_advance_of_append hrest⟩

/-- Two readings of the same data read the same and leave the same. -/
theorem Reads.inj_append {m : Parser ε β α} {bs bs' suf suf' : List β} {a b : α}
    (ha : Reads m bs a) (hb : Reads m bs' b) (h : bs ++ suf = bs' ++ suf') :
    a = b ∧ suf = suf' := by
  have hstart : Cursor.rest ⟨bs ++ suf, 0⟩ = bs ++ suf := rfl
  have hstart' : Cursor.rest ⟨bs ++ suf, 0⟩ = bs' ++ suf' := h
  have hrb := hb _ suf' (Cursor.within_start _) hstart'
  rw [ha _ suf (Cursor.within_start _) hstart] at hrb
  obtain ⟨hval, hcursor⟩ := EStateM.Result.ok.inj hrb
  refine ⟨hval, ?_⟩
  have hrest := congrArg Cursor.rest hcursor
  rwa [Cursor.rest_advance_of_append hstart, Cursor.rest_advance_of_append hstart'] at hrest

/-- What is read from the same values is the same. -/
theorem Reads.inj {m : Parser ε β α} {bs : List β} {a b : α} (ha : Reads m bs a)
    (hb : Reads m bs b) : a = b := by
  have heq : bs ++ [] = bs ++ [] := rfl
  exact (ha.inj_append hb heq).1

theorem Reads.collect {m : Parser ε β α} {f : α → List β} {as : List α}
    (h : ∀ a ∈ as, Reads m (f a) a) : Reads (collect m as.length) (as.flatMap f) as := by
  induction as with
  | nil => exact Reads.pure []
  | cons a as ih =>
    refine (h a (List.mem_cons_self ..)).bind (Reads.bind_pure (ih fun b hb => ?_) rfl)
    exact h b (List.mem_cons_of_mem _ hb)

/-! ### Writing -/

/-- `w` appends exactly `bs`. -/
def Writes (w : Printer ε β Unit) (bs : List β) : Prop := ∀ out, w out = .ok () (out ++ bs)

/-- What a printer appends to an empty list; nothing when it fails. -/
def written (w : Printer ε β Unit) : List β :=
  match w [] with
  | .ok _ out => out
  | .error _ _ => []

theorem Writes.written {w : Printer ε β Unit} {bs : List β} (h : Writes w bs) : written w = bs := by
  rw [Wire.written, h, List.nil_append]

theorem Writes.pure : Writes (pure () : Printer ε β Unit) [] := by
  intro out
  rw [List.append_nil]
  rfl

theorem Writes.bind {w : Printer ε β Unit} {k : Unit → Printer ε β Unit} {bs bs' : List β}
    (hw : Writes w bs) (hk : Writes (k ()) bs') : Writes (w >>= k) (bs ++ bs') := by
  intro out
  rw [bind_ok (hw out), hk, List.append_assoc]

theorem Writes.each {f : α → Printer ε β Unit} {g : α → List β} {as : List α}
    (h : ∀ a ∈ as, Writes (f a) (g a)) : Writes (each f as) (as.flatMap g) := by
  induction as with
  | nil => exact Writes.pure
  | cons a as ih =>
    exact (h a (List.mem_cons_self ..)).bind (ih fun b hb => h b (List.mem_cons_of_mem _ hb))

/-- Elements that each take up some room are no more than the room they take up together. -/
theorem length_le_length_flatMap {f : α → List β} {as : List α} (h : ∀ a ∈ as, f a ≠ []) :
    as.length ≤ (as.flatMap f).length := by
  induction as with
  | nil => exact Nat.zero_le _
  | cons a as ih =>
    have ha := List.length_pos_iff.mpr (h a (List.mem_cons_self ..))
    have has := ih fun b hb => h b (List.mem_cons_of_mem _ hb)
    rw [List.flatMap_cons, List.length_append, List.length_cons]
    omega

/-! ### Codecs -/

/-- `r` reads back as `a` what `w` writes. -/
def Codes (w : Printer ε β Unit) (r : Parser ε β α) (a : α) : Prop :=
  ∃ bs, Writes w bs ∧ Reads r bs a

theorem Codes.writes {w : Printer ε β Unit} {r : Parser ε β α} {a : α} (h : Codes w r a) :
    Writes w (written w) := by
  obtain ⟨bs, hw, _⟩ := h
  exact hw.written ▸ hw

theorem Codes.reads {w : Printer ε β Unit} {r : Parser ε β α} {a : α} (h : Codes w r a) :
    Reads r (written w) a := by
  obtain ⟨bs, hw, hr⟩ := h
  exact hw.written ▸ hr

/-- Nothing is written and nothing is read. -/
theorem Codes.pure (a : α) : Codes (pure () : Printer ε β Unit) (pure a) a :=
  ⟨[], Writes.pure, Reads.pure a⟩

/-- One field, then the rest. -/
theorem Codes.bind {w : Printer ε β Unit} {w' : Unit → Printer ε β Unit} {r : Parser ε β α}
    {k : α → Parser ε β γ} {a : α} {b : γ} (h : Codes w r a) (h' : Codes (w' ()) (k a) b) :
    Codes (w >>= w') (r >>= k) b := by
  obtain ⟨bs, hw, hr⟩ := h
  obtain ⟨bs', hw', hr'⟩ := h'
  exact ⟨bs ++ bs', hw.bind hw', hr.bind hr'⟩

/-- The last field, from which the reader computes its result. -/
theorem Codes.last {w : Printer ε β Unit} {r : Parser ε β α} {k : α → Parser ε β γ} {a : α} {b : γ}
    (h : Codes w r a) (hk : k a = Pure.pure b) : Codes w (r >>= k) b := by
  obtain ⟨bs, hw, hr⟩ := h
  exact ⟨bs, hw, hr.bind_pure hk⟩

theorem Codes.map {w : Printer ε β Unit} {r : Parser ε β α} {a : α} (h : Codes w r a) (f : α → γ) :
    Codes w (f <$> r) (f a) := by
  obtain ⟨bs, hw, hr⟩ := h
  exact ⟨bs, hw, hr.map f⟩

/-- The elements of a list, read back one after the other. -/
theorem Codes.each {f : α → Printer ε β Unit} {r : Parser ε β α} {as : List α}
    (h : ∀ a ∈ as, Codes (f a) r a) : Codes (each f as) (Wire.collect r as.length) as :=
  ⟨as.flatMap fun a => written (f a), Writes.each fun a ha => (h a ha).writes,
    Reads.collect fun a ha => (h a ha).reads⟩

/-- What `w` prints into an empty list is read to its end. -/
theorem Codes.parses {w : Printer ε β Unit} {r : Parser ε β α} {a : α} {out : List β}
    (h : Codes w r a) (hout : w [] = .ok () out) : r ⟨out, 0⟩ = .ok a ⟨out, out.length⟩ := by
  obtain ⟨bs, hw, hr⟩ := h
  rw [hw, List.nil_append] at hout
  obtain ⟨_, rfl⟩ := EStateM.Result.ok.inj hout
  have hread := hr ⟨bs, 0⟩ [] (Cursor.within_start _) (List.append_nil _).symm
  rw [hread, Cursor.advance, Nat.zero_add]

/-- `r` reads some value from what `w` writes, whatever follows. -/
def Accepts (w : Printer ε β Unit) (r : Parser ε β α) : Prop := ∃ a, Codes w r a

theorem Codes.accepts {w : Printer ε β Unit} {w' : Unit → Printer ε β Unit} {r : Parser ε β α}
    {k : α → Parser ε β γ} {a : α} (h : Codes w r a) (h' : Accepts (w' ()) (k a)) :
    Accepts (w >>= w') (r >>= k) := by
  obtain ⟨b, hb⟩ := h'
  exact ⟨b, h.bind hb⟩

theorem Accepts.bind {w : Printer ε β Unit} {w' : Unit → Printer ε β Unit} {r : Parser ε β α}
    {k : α → Parser ε β γ} (h : Accepts w r) (h' : ∀ a, Accepts (w' ()) (k a)) :
    Accepts (w >>= w') (r >>= k) := by
  obtain ⟨a, ha⟩ := h
  exact ha.accepts (h' a)

/-- `r` fails on what `w` writes, whatever follows. -/
def Rejects (w : Printer ε β Unit) (r : Parser ε β α) : Prop :=
  ∃ bs, Writes w bs ∧ ∀ c suf, c.Within → c.rest = bs ++ suf → ∃ e c', r c = .error e c'

/-- A field that is read, then one that is not. -/
theorem Codes.rejects {w : Printer ε β Unit} {w' : Unit → Printer ε β Unit} {r : Parser ε β α}
    {k : α → Parser ε β γ} {a : α} (h : Codes w r a) (h' : Rejects (w' ()) (k a)) :
    Rejects (w >>= w') (r >>= k) := by
  obtain ⟨bs, hw, hr⟩ := h
  obtain ⟨bs', hw', hfail⟩ := h'
  refine ⟨bs ++ bs', hw.bind hw', fun c suf hc hrest => ?_⟩
  rw [List.append_assoc] at hrest
  rw [bind_ok (hr c _ hc hrest)]
  exact hfail _ suf (hc.advance_of_append hrest) (Cursor.rest_advance_of_append hrest)

/-- A field that is not read, whatever is written behind it. -/
theorem Rejects.bind {w : Printer ε β Unit} {w' : Unit → Printer ε β Unit} {r : Parser ε β α}
    {k : α → Parser ε β γ} {bs' : List β} (h : Rejects w r) (h' : Writes (w' ()) bs') :
    Rejects (w >>= w') (r >>= k) := by
  obtain ⟨bs, hw, hfail⟩ := h
  refine ⟨bs ++ bs', hw.bind h', fun c suf hc hrest => ?_⟩
  rw [List.append_assoc] at hrest
  obtain ⟨e, c', herror⟩ := hfail c _ hc hrest
  exact ⟨e, c', bind_error herror⟩

theorem Rejects.last {w : Printer ε β Unit} {r : Parser ε β α} {k : α → Parser ε β γ}
    (h : Rejects w r) : Rejects w (r >>= k) := by
  obtain ⟨bs, hw, hfail⟩ := h
  refine ⟨bs, hw, fun c suf hc hrest => ?_⟩
  obtain ⟨e, c', herror⟩ := hfail c suf hc hrest
  exact ⟨e, c', bind_error herror⟩

/-! ### Failures -/

/-- In front of any suffix of `bs`, `m` fails with `e`. -/
def FailsWith (m : Parser ε β α) (bs : List β) (e : ε) : Prop :=
  ∀ c suf, c.Within → c.rest = bs ++ suf → ∃ c', m c = .error e c'

section FailsWith

variable {m : Parser ε β α} {k : α → Parser ε β γ} {bs bs' : List β} {a : α} {e : ε}

theorem FailsWith.throw (e : ε) : FailsWith (throw e : Parser ε β α) bs e := fun c _ _ _ => ⟨c, rfl⟩

/-- Whatever stands behind what cannot be read. -/
theorem FailsWith.bind (h : FailsWith m bs e) : FailsWith (m >>= k) (bs ++ bs') e := by
  intro c suf hc hrest
  rw [List.append_assoc] at hrest
  obtain ⟨c', herror⟩ := h c _ hc hrest
  exact ⟨c', bind_error herror⟩

theorem FailsWith.map (h : FailsWith m bs e) (f : α → γ) : FailsWith (f <$> m) bs e := by
  rw [map_eq_pure_bind, ← List.append_nil bs]
  exact h.bind

theorem Reads.bind_failsWith (hm : Reads m bs a) (hk : FailsWith (k a) bs' e) :
    FailsWith (m >>= k) (bs ++ bs') e := by
  intro c suf hc hrest
  rw [List.append_assoc] at hrest
  rw [bind_ok (hm c _ hc hrest)]
  exact hk _ suf (hc.advance_of_append hrest) (Cursor.rest_advance_of_append hrest)

/-- A loop fails at the first element that is not in `p`, behind others that are read. -/
theorem FailsWith.collect {f : α → List β} {p : α → Prop} [DecidablePred p] {as : List α}
    (h : ∀ a ∈ as, if p a then Reads m (f a) a else FailsWith m (f a) e)
    (hfail : ¬ ∀ a ∈ as, p a) : FailsWith (collect m as.length) (as.flatMap f) e := by
  induction as with
  | nil => exact absurd (List.forall_mem_nil p) hfail
  | cons a as ih =>
    obtain ⟨ha, has⟩ := List.forall_mem_cons.mp h
    rw [List.flatMap_cons]
    split_ifs at ha with hp
    · have hrest := ih has fun hall => hfail (List.forall_mem_cons.mpr ⟨hp, hall⟩)
      rw [← List.append_nil (as.flatMap f)]
      exact ha.bind_failsWith hrest.bind
    · exact ha.bind

end FailsWith

/-! ### Parsers on arbitrary data -/

/-- On any data: when `m` returns `a`, it has consumed some `bs` with `Q bs a`, and when it fails,
its cursor has only moved ahead within the data. -/
def Takes (m : Parser ε β α) (Q : List β → α → Prop) : Prop :=
  ∀ c : Cursor β, c.Within →
    match m c with
    | .ok a c' => ∃ bs suf, c.rest = bs ++ suf ∧ c' = c.advance bs.length ∧ Q bs a
    | .error _ c' => c'.data = c.data ∧ c.pos ≤ c'.pos ∧ c'.Within

section Takes

variable {m : Parser ε β α} {k : α → Parser ε β γ} {Q : List β → α → Prop}
  {R : List β → γ → Prop}

theorem Takes.of_ok (h : Takes m Q) {c c' : Cursor β} {a : α} (hc : c.Within)
    (hm : m c = .ok a c') : ∃ bs suf, c.rest = bs ++ suf ∧ c' = c.advance bs.length ∧ Q bs a := by
  have h := h c hc
  rw [hm] at h
  exact h

theorem Takes.of_error (h : Takes m Q) {c c' : Cursor β} {e : ε} (hc : c.Within)
    (hm : m c = .error e c') : c'.data = c.data ∧ c.pos ≤ c'.pos ∧ c'.Within := by
  have h := h c hc
  rw [hm] at h
  exact h

theorem Takes.pure {a : α} (h : Q [] a) : Takes (pure a : Parser ε β α) Q :=
  fun c _ => ⟨[], c.rest, rfl, rfl, h⟩

theorem Takes.throw (e : ε) : Takes (throw e : Parser ε β α) Q :=
  fun c hc => ⟨rfl, Nat.le_refl c.pos, hc⟩

theorem Takes.mono {Q' : List β → α → Prop} (h : Takes m Q) (hQ : ∀ bs a, Q bs a → Q' bs a) :
    Takes m Q' := by
  intro c hc
  cases hm : m c with
  | error e c' => exact h.of_error hc hm
  | ok a c' =>
    obtain ⟨bs, suf, hr, hc', hq⟩ := h.of_ok hc hm
    exact ⟨bs, suf, hr, hc', hQ bs a hq⟩

theorem Takes.bind (hm : Takes m Q)
    (hk : ∀ bs a, Q bs a → Takes (k a) (fun bs' b => R (bs ++ bs') b)) : Takes (m >>= k) R := by
  intro c hc
  cases h : m c with
  | error e c' =>
    rw [bind_error h]
    exact hm.of_error hc h
  | ok a c' =>
    -- `m` has consumed `bs`; whatever `k` does next starts behind it
    obtain ⟨bs, suf, hr, rfl, hq⟩ := hm.of_ok hc h
    have hin := hc.advance_of_append hr
    have hrest := Cursor.rest_advance_of_append hr
    rw [bind_ok h]
    cases h' : k a (c.advance bs.length) with
    | error e c' =>
      obtain ⟨hd, hp, hw⟩ := (hk bs a hq).of_error hin h'
      rw [Cursor.data_advance] at hd
      rw [Cursor.pos_advance] at hp
      exact ⟨hd, by omega, hw⟩
    | ok b c' =>
      obtain ⟨bs', suf', hr', rfl, hR⟩ := (hk bs a hq).of_ok hin h'
      refine ⟨bs ++ bs', suf', ?_, ?_, hR⟩
      · rw [List.append_assoc, ← hr', hrest, ← hr]
      · rw [Cursor.advance_advance, List.length_append]

/-- A parser that fails either stands at the end of the data, where it was, or has moved ahead. -/
def Progress (m : Parser ε β α) : Prop :=
  ∀ c : Cursor β, c.Within → ∀ e c', m c = .error e c' →
    c.rest = [] ∧ c' = c ∨ c'.rest.length < c.rest.length

theorem Cursor.length_rest_lt {c c' : Cursor β} (hd : c'.data = c.data) (hp : c.pos < c'.pos)
    (hw : c'.Within) : c'.rest.length < c.rest.length := by
  rw [Cursor.length_rest, Cursor.length_rest, hd]
  rw [Cursor.Within, hd] at hw
  omega

/-- What follows a first read that consumes something makes progress in any case. -/
theorem Progress.bind (hp : Progress m) (hm : Takes m fun bs a => Q bs a ∧ bs ≠ [])
    (hk : ∀ bs a, Q bs a → ∃ R, Takes (k a) R) : Progress (m >>= k) := by
  intro c hc e c' h
  cases hr : m c with
  | error e' c₁ =>
    rw [bind_error hr] at h
    obtain ⟨rfl, rfl⟩ := EStateM.Result.error.inj h
    exact hp c hc _ _ hr
  | ok a c₁ =>
    obtain ⟨bs, suf, hrest, rfl, hq, hne⟩ := hm.of_ok hc hr
    rw [bind_ok hr] at h
    obtain ⟨R, hkR⟩ := hk bs a hq
    obtain ⟨hd, hpos, hw⟩ := hkR.of_error (hc.advance_of_append hrest) h
    have hlen := List.length_pos_iff.mpr hne
    rw [Cursor.pos_advance] at hpos
    exact Or.inr (Cursor.length_rest_lt hd (by omega) hw)

end Takes

/-! ### Stricter parsers -/

/-- On any data: where `m` returns a value, so does `m'`, in the same place, and the value
satisfies `P`. -/
def Refines (m m' : Parser ε β α) (P : α → Prop) : Prop :=
  ∀ c a c', c.Within → m c = .ok a c' → c'.Within ∧ m' c = .ok a c' ∧ P a

section Refines

variable {m m' : Parser ε β α} {k k' : α → Parser ε β γ} {P : α → Prop} {R : γ → Prop}

theorem Refines.of_takes (h : Takes m fun _ a => P a) : Refines m m P := by
  intro c a c' hc hm
  obtain ⟨bs, suf, hrest, rfl, hp⟩ := h.of_ok hc hm
  exact ⟨hc.advance_of_append hrest, hm, hp⟩

theorem Refines.pure {a : α} (h : P a) : Refines (pure a : Parser ε β α) (pure a) P :=
  Refines.of_takes (Takes.pure h)

theorem Refines.throw (e : ε) : Refines (throw e) m' P := by
  intro c a c' _ h
  have hne : EStateM.Result.error e c = .ok a c' := h
  exact absurd hne (by simp)

theorem Refines.bind (hm : Refines m m' P) (hk : ∀ a, P a → Refines (k a) (k' a) R) :
    Refines (m >>= k) (m' >>= k') R := by
  intro c b c'' hc h
  obtain ⟨a, c', hok, hb⟩ := bind_eq_ok h
  obtain ⟨hc', hok', hp⟩ := hm c a c' hc hok
  rw [bind_ok hok']
  exact hk a hp c' b c'' hc' hb

theorem Refines.mono {P' : α → Prop} (h : Refines m m' P) (hP : ∀ a, P a → P' a) :
    Refines m m' P' := by
  intro c a c' hc hm
  obtain ⟨hc', hm', hp⟩ := h c a c' hc hm
  exact ⟨hc', hm', hP a hp⟩

theorem Refines.map (h : Refines m m' P) {f : α → γ} (hf : ∀ a, P a → R (f a)) :
    Refines (f <$> m) (f <$> m') R := by
  rw [map_eq_pure_bind, map_eq_pure_bind]
  exact h.bind fun a ha => Refines.pure (hf a ha)

/-- A test on which both parsers agree. -/
theorem Refines.ite {n n' : Parser ε β α} {p : Prop} [Decidable p]
    (hm : p → Refines m m' P) (hn : ¬ p → Refines n n' P) :
    Refines (if p then m else n) (if p then m' else n') P := by
  by_cases hp : p
  · rw [if_pos hp, if_pos hp]
    exact hm hp
  · rw [if_neg hp, if_neg hp]
    exact hn hp

theorem Refines.collect (h : Refines m m' P) (n : Nat) :
    Refines (collect m n) (collect m' n) fun as => as.length = n ∧ ∀ a ∈ as, P a := by
  induction n with
  | zero => exact Refines.pure ⟨rfl, fun a ha => absurd ha List.not_mem_nil⟩
  | succ n ih =>
    refine h.bind fun a ha => ih.bind ?_
    rintro as ⟨hlen, has⟩
    refine Refines.pure ⟨by rw [List.length_cons, hlen], ?_⟩
    intro b hb
    rcases List.mem_cons.mp hb with rfl | hb
    · exact ha
    · exact has b hb

end Refines

/-! ### Writing back what was read -/

/-- `w` succeeds and appends no more than `n`. -/
def Fits (w : Printer ε β Unit) (n : Nat) : Prop := ∃ bs, Writes w bs ∧ bs.length ≤ n

theorem Fits.length_written {w : Printer ε β Unit} {n : Nat} (h : Fits w n) :
    (written w).length ≤ n := by
  obtain ⟨bs, hw, hlen⟩ := h
  rw [hw.written]
  exact hlen

theorem Fits.bind {w : Printer ε β Unit} {k : Unit → Printer ε β Unit} {m n : Nat}
    (hw : Fits w m) (hk : Fits (k ()) n) : Fits (w >>= k) (m + n) := by
  obtain ⟨bs, hbs, hm⟩ := hw
  obtain ⟨bs', hbs', hn⟩ := hk
  refine ⟨bs ++ bs', hbs.bind hbs', ?_⟩
  rw [List.length_append]
  omega

/-- On any data: what `r` returns, `w` can write, and in no more room than `r` consumed. -/
def Compacts (w : α → Printer ε β Unit) (r : Parser ε β α) : Prop :=
  Takes r fun bs a => Fits (w a) bs.length

theorem Compacts.collect {w : α → Printer ε β Unit} {r : Parser ε β α} (h : Compacts w r)
    (n : Nat) : Takes (collect r n) fun bs as => as.length = n ∧ Fits (each w as) bs.length := by
  induction n with
  | zero => exact Takes.pure ⟨rfl, [], Writes.pure, Nat.le_refl 0⟩
  | succ n ih =>
    refine Takes.bind h fun bs a ha => ih.bind ?_
    rintro bs' as ⟨hlen, has⟩
    refine Takes.pure ⟨by rw [List.length_cons, hlen], ?_⟩
    rw [List.append_nil, List.length_append]
    exact ha.bind has

end Wire
