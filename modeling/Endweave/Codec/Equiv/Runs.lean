import Endweave.Codec.Equiv.Wrapper

/-!
# Handlers on arbitrary data

`Runs h c c' w a`: a handler whose reader stands at `c` moves it to `c'`, prints what `w` prints and
returns `a`; where `w` fails, so does the handler.  Unlike `Rewrites` it makes no assumption on the
bytes that are read: a handler that reads the fields of a grammar in order is compared with the
reader of the grammar, whatever that has accepted.
-/

namespace Endweave

open Wire PacketWrapper

variable {α γ : Type}

/-- From `c` to `c'`, `h` prints `w` and returns `a`, unless `w` fails. -/
structure Runs (h : WrapperM α) (c c' : PacketReader) (w : Printer PyException UInt8 Unit) (a : α) :
    Prop where
  spec : ∀ s : PacketWrapper, s.reader = c →
    match w s.writer with
    | .ok _ out => h s = .ok a { s with reader := c', writer := out }
    | .error _ _ => ∃ e s', h s = .error e s'

theorem Runs.pure (c : PacketReader) (a : α) : Runs (pure a) c c (pure ()) a := by
  constructor
  rintro s rfl
  rfl

section Rules

variable {h : WrapperM α} {k : α → WrapperM γ} {c c' c'' : PacketReader}
  {w : Printer PyException UInt8 Unit} {u : Unit → Printer PyException UInt8 Unit} {a : α} {b : γ}

theorem Runs.bind (hh : Runs h c c' w a) (hk : Runs (k a) c' c'' (u ()) b) :
    Runs (h >>= k) c c'' (w >>= u) b := by
  constructor
  intro s hs
  have hh := hh.spec s hs
  cases hw : w s.writer with
  | error e out =>
    rw [hw] at hh
    obtain ⟨e', s', hfail⟩ := hh
    rw [bind_error hw]
    exact ⟨e', s', bind_error hfail⟩
  | ok _ out =>
    rw [hw] at hh
    rw [bind_ok hw, bind_ok hh]
    exact hk.spec { s with reader := c', writer := out } rfl

/-- A part that only reads, then the rest. -/
theorem Runs.readThen (hh : Runs h c c' (Pure.pure ()) a) (hk : Runs (k a) c' c'' w b) :
    Runs (h >>= k) c c'' w b := hh.bind (u := fun _ => w) hk

/-- The last part, from which the result is computed. -/
theorem Runs.last (hh : Runs h c c' w a) (hk : k a = Pure.pure b) :
    Runs (h >>= k) c c' w b := by
  constructor
  intro s hs
  have hh := hh.spec s hs
  cases hw : w s.writer with
  | error e out =>
    rw [hw] at hh
    obtain ⟨e', s', hfail⟩ := hh
    exact ⟨e', s', bind_error hfail⟩
  | ok _ out =>
    rw [hw] at hh
    show (h >>= k) s = _
    rw [bind_ok hh, hk]
    rfl

variable {T T' : FieldType α} {v : α}

/-- A field that is only read, then the rest. -/
theorem Runs.read (hT : T.read c = .ok v c') (hk : Runs (k v) c' c'' w b) :
    Runs (PacketWrapper.read T >>= k) c c'' w b := by
  constructor
  rintro s rfl
  have hread : PacketWrapper.read T s = .ok v { s with reader := c' } := by
    show onReader T.read s = _
    rw [onReader, hT]
  rw [bind_ok hread]
  exact hk.spec { s with reader := c' } rfl

theorem runs_write (T : FieldType α) (v : α) (c : PacketReader) :
    Runs (PacketWrapper.write T v) c c (T.write v) () := by
  constructor
  rintro s rfl
  show match T.write v s.writer with
    | .ok _ out => onWriter (T.write v) s = .ok () { s with writer := out }
    | .error _ _ => ∃ e s', onWriter (T.write v) s = .error e s'
  unfold onWriter
  cases T.write v s.writer with
  | ok _ out => rfl
  | error e out => exact ⟨e, _, rfl⟩

theorem Runs.write {k : Unit → WrapperM γ} (hk : Runs (k ()) c c' (u ()) b) :
    Runs (PacketWrapper.write T v >>= k) c c' (T.write v >>= u) b :=
  (runs_write T v c).bind hk

theorem runs_map (hT : T.read c = .ok v c') :
    Runs (PacketWrapper.map T T') c c' (T'.write v) v := by
  have hwrite : Runs (PacketWrapper.write T' v >>= fun _ => Pure.pure v) c' c' (T'.write v) v :=
    (runs_write T' v c').last rfl
  exact Runs.read hT hwrite

theorem runs_passthrough (hT : T.read c = .ok v c') :
    Runs (PacketWrapper.passthrough T) c c' (T.write v) v := runs_map hT

theorem Runs.passthrough (hT : T.read c = .ok v c') (hk : Runs (k v) c' c'' (u ()) b) :
    Runs (PacketWrapper.passthrough T >>= k) c c'' (T.write v >>= u) b :=
  (runs_passthrough hT).bind hk

end Rules

/-- A list that was read behind its count has as many elements as the count says. -/
theorem length_of_counted {β : Type} {r : Parser PyException UInt8 β} {count : Int} {xs : List β}
    {c c₁ c₂ c₃ : PacketReader} (hcount : uvarInt.read c = .ok count c₁)
    (hxs : collect r count.toNat c₂ = .ok xs c₃) : (xs.length : Int) = count := by
  have hnonneg : 0 ≤ count := by
    obtain ⟨n, c₄, _, hn⟩ := bind_eq_ok hcount
    obtain ⟨rfl, _⟩ := pure_eq_ok_iff.mp hn
    exact Int.natCast_nonneg n
  rw [length_of_collect hxs]
  exact Int.toNat_of_nonneg hnonneg

section Loops

variable {β : Type} {r : Parser PyException UInt8 β} {h : PacketHandler}
  {w : β → Printer PyException UInt8 Unit} {xs : List β} {c c' : PacketReader}
  (hx : ∀ x c c', r c = .ok x c' → Runs h c c' (w x) ())

include hx

theorem Runs.repeatM {n : Nat} (hr : collect r n c = .ok xs c') :
    Runs (Wire.repeatM h n) c c' (each w xs) () := by
  induction n generalizing c xs with
  | zero =>
    obtain ⟨rfl, rfl⟩ := pure_eq_ok_iff.mp hr
    exact Runs.pure c ()
  | succ n ih =>
    obtain ⟨x, c₁, hfirst, hr⟩ := bind_eq_ok hr
    obtain ⟨ys, c₂, hrest, hr⟩ := bind_eq_ok hr
    obtain ⟨rfl, rfl⟩ := pure_eq_ok_iff.mp hr
    exact (hx x c c₁ hfirst).bind (ih hrest)

/-- A loop over an array, behind its count: the elements are written as an array. -/
theorem runs_passthroughLoop {B : FieldType β} (hw : B.write = w)
    (hr : (arrayType ⟨r, B.write⟩).read c = .ok xs c') :
    Runs (passthroughLoop h) c c' ((arrayType B).write xs) () := by
  obtain ⟨count, c₁, hcount, hr⟩ := bind_eq_ok hr
  have hlen : (xs.length : Int) = count := length_of_counted hcount hr
  -- the count that is passed through is the length that the writer of an array puts there
  have hloop := Runs.repeatM hx hr
  have hpass : Runs (PacketWrapper.passthrough uvarInt) c c₁ (uvarInt.write count) count :=
    runs_passthrough hcount
  rw [← hw, ← hlen] at hloop
  rw [← hlen] at hpass
  exact hpass.bind hloop

end Loops

/-- A handler that runs over the whole payload returns what it has printed. -/
theorem Runs.printed {h : PacketHandler} {payload out : List UInt8} {user : UserConnection}
    {w : Printer PyException UInt8 Unit} (hh : Runs h ⟨payload, 0⟩ ⟨payload, payload.length⟩ w ())
    (hok : h.apply payload user = .ok out) : w [] = .ok () out := by
  have hh := hh.spec (ofPayload payload user) rfl
  unfold PacketHandler.apply at hok
  cases hw : w [] with
  | error e out' =>
    rw [show (ofPayload payload user).writer = [] from rfl, hw] at hh
    obtain ⟨e', s', hfail⟩ := hh
    rw [hfail] at hok
    exact absurd hok (by simp)
  | ok _ out' =>
    rw [show (ofPayload payload user).writer = [] from rfl, hw] at hh
    rw [hh] at hok
    simp only [toBytes, PacketReader.hasRemaining, Nat.lt_irrefl, decide_false, Bool.false_eq_true,
      if_false, Except.ok.injEq] at hok
    rw [hok]

/-! ### What a handler that returns has done -/

section Returns

variable {T : FieldType α} {v : α} {s s' : PacketWrapper}

theorem apply_eq_ok {h : PacketHandler} {payload out : List UInt8} {user : UserConnection}
    (hok : h.apply payload user = .ok out) :
    ∃ s, h (ofPayload payload user) = .ok () s ∧ out = s.toBytes := by
  unfold PacketHandler.apply at hok
  cases hs : h (ofPayload payload user) with
  | error e s =>
    rw [hs] at hok
    cases hok
  | ok _ s =>
    rw [hs] at hok
    exact ⟨s, rfl, (Except.ok.inj hok).symm⟩

/-- A handler that never returns raises. -/
theorem raises_of_not_ok {h : PacketHandler} {payload : List UInt8} {user : UserConnection}
    (hnot : ∀ s, h (ofPayload payload user) ≠ .ok () s) :
    ∃ e, h.apply payload user = .error e := by
  unfold PacketHandler.apply
  cases hs : h (ofPayload payload user) with
  | error e s => exact ⟨e, rfl⟩
  | ok _ s => exact absurd hs (hnot s)

theorem onReader_eq_ok {m : Parser PyException UInt8 α} (hok : onReader m s = .ok v s') :
    ∃ c, m s.reader = .ok v c ∧ s' = { s with reader := c } := by
  unfold onReader at hok
  cases hread : m s.reader with
  | error e c =>
    rw [hread] at hok
    cases hok
  | ok a c =>
    rw [hread] at hok
    obtain ⟨rfl, rfl⟩ := EStateM.Result.ok.inj hok
    exact ⟨c, rfl, rfl⟩

theorem read_eq_ok (hok : PacketWrapper.read T s = .ok v s') :
    ∃ c, T.read s.reader = .ok v c ∧ s' = { s with reader := c } := onReader_eq_ok hok

/-- A part that has been read, then the rest. -/
theorem onReader_bind_eq_ok {m : Parser PyException UInt8 α} {k : α → WrapperM γ} {b : γ}
    (hok : (onReader m >>= k) s = .ok b s') :
    ∃ v c, m s.reader = .ok v c ∧ k v { s with reader := c } = .ok b s' := by
  obtain ⟨v, s₁, hread, hok⟩ := bind_eq_ok hok
  obtain ⟨c, hc, rfl⟩ := onReader_eq_ok hread
  exact ⟨v, c, hc, hok⟩

theorem write_eq_ok (hok : PacketWrapper.write T v s = .ok () s') :
    ∃ out, T.write v s.writer = .ok () out ∧ s' = { s with writer := out } := by
  have hok : onWriter (T.write v) s = .ok () s' := hok
  unfold onWriter at hok
  cases hwrite : T.write v s.writer with
  | error e out =>
    rw [hwrite] at hok
    cases hok
  | ok _ out =>
    rw [hwrite] at hok
    obtain ⟨_, rfl⟩ := EStateM.Result.ok.inj hok
    exact ⟨out, rfl, rfl⟩

/-- What is unread has been copied. -/
theorem passthroughAll_eq_ok (hok : (passthroughAll >>= fun _ => Pure.pure ()) s = .ok () s') :
    s'.toBytes = s.writer ++ s.reader.rest := by
  have hok : EStateM.Result.ok () { s with
      reader := { s.reader with pos := s.reader.data.length }
      writer := s.writer ++ s.reader.rest } = .ok () s' := hok
  obtain ⟨_, rfl⟩ := EStateM.Result.ok.inj hok
  have hend : Cursor.rest { s.reader with pos := s.reader.data.length } = [] := List.drop_length
  rw [toBytes_eq]
  simp only [hend, List.append_nil]

end Returns

/-- From `s` to `s'`, `r` has returned `v` and `bs` have been written. -/
structure Sent (r : Parser PyException UInt8 α) (v : α) (bs : List UInt8) (s s' : PacketWrapper) :
    Prop where
  run : ∃ c, r s.reader = .ok v c ∧ s' = { s with reader := c, writer := s.writer ++ bs }

section Sent

variable {T : FieldType α} {r : Parser PyException UInt8 α} {k : α → Parser PyException UInt8 γ}
  {v : α} {b : γ} {bs bs' : List UInt8} {s s₁ s' : PacketWrapper}

theorem Sent.bind (h : Sent r v bs s s₁) (hk : Sent (k v) b bs' s₁ s') :
    Sent (r >>= k) b (bs ++ bs') s s' := by
  obtain ⟨c₁, hr, rfl⟩ := h.run
  obtain ⟨c, hr', rfl⟩ := hk.run
  refine ⟨c, ?_, ?_⟩
  · rw [bind_ok hr]
    exact hr'
  · rw [← List.append_assoc]

/-- The last field, from which the reader computes its result. -/
theorem Sent.last (h : Sent r v bs s s') (hk : k v = Pure.pure b) : Sent (r >>= k) b bs s s' := by
  obtain ⟨c, hr, hs⟩ := h.run
  refine ⟨c, ?_, hs⟩
  rw [bind_ok hr, hk]
  rfl

theorem read_sent (hok : PacketWrapper.read T s = .ok v s') : Sent T.read v [] s s' := by
  obtain ⟨c, hread, rfl⟩ := read_eq_ok hok
  exact ⟨c, hread, by rw [List.append_nil]⟩

/-- A part for which nothing is written, then the rest. -/
theorem Sent.drop (h : Sent r v [] s s₁) (hk : Sent (k v) b bs s₁ s') : Sent (r >>= k) b bs s s' :=
  h.bind hk

/-- A field that is only read, then the rest. -/
theorem Sent.read (hok : PacketWrapper.read T s = .ok v s₁) (hk : Sent (k v) b bs s₁ s') :
    Sent (T.read >>= k) b bs s s' := (read_sent hok).drop hk

/-- A field that is only written, then the rest. -/
theorem Sent.write {a : γ} {U : FieldType γ} (hw : Writes (U.write a) bs)
    (hok : PacketWrapper.write U a s = .ok () s₁) (hk : Sent r v bs' s₁ s') :
    Sent r v (bs ++ bs') s s' := by
  obtain ⟨out, hwrite, rfl⟩ := write_eq_ok hok
  rw [hw] at hwrite
  obtain ⟨_, rfl⟩ := EStateM.Result.ok.inj hwrite
  obtain ⟨c, hr, rfl⟩ := hk.run
  exact ⟨c, hr, by rw [← List.append_assoc]⟩

theorem map_sent {U : FieldType α} (hw : Writes (U.write v) bs)
    (hok : PacketWrapper.map T U s = .ok v s') : Sent T.read v bs s s' := by
  obtain ⟨v', s₁, hfirst, hok⟩ := bind_eq_ok hok
  obtain ⟨c, hread, rfl⟩ := read_eq_ok hfirst
  obtain ⟨_, s₂, hsecond, hok⟩ := bind_eq_ok hok
  obtain ⟨out, hwrite, rfl⟩ := write_eq_ok hsecond
  obtain ⟨rfl, rfl⟩ := pure_eq_ok_iff.mp hok
  rw [hw] at hwrite
  obtain ⟨_, rfl⟩ := EStateM.Result.ok.inj hwrite
  exact ⟨c, hread, rfl⟩

theorem passthrough_sent (hw : Writes (T.write v) bs)
    (hok : PacketWrapper.passthrough T s = .ok v s') : Sent T.read v bs s s' := map_sent hw hok

end Sent

section SentLoops

variable {β : Type} {r : Parser PyException UInt8 β} {h : PacketHandler} {f : β → List UInt8}
  {s s' : PacketWrapper} (hh : ∀ s s', h s = .ok () s' → ∃ v, Sent r v (f v) s s')

include hh

theorem repeatM_sent {n : Nat} (hok : Wire.repeatM h n s = .ok () s') :
    ∃ vs, Sent (collect r n) vs (vs.flatMap f) s s' := by
  induction n generalizing s with
  | zero =>
    obtain ⟨_, rfl⟩ := pure_eq_ok_iff.mp hok
    exact ⟨[], s.reader, rfl, by rw [List.flatMap_nil, List.append_nil]⟩
  | succ n ih =>
    obtain ⟨_, s₁, hfirst, hok⟩ := bind_eq_ok hok
    obtain ⟨v, hv⟩ := hh s s₁ hfirst
    obtain ⟨vs, hvs⟩ := ih hok
    refine ⟨v :: vs, ?_⟩
    rw [List.flatMap_cons]
    exact hv.bind (hvs.last rfl)

/-- A loop behind its count has sent an array. -/
theorem passthroughLoop_sent {T : FieldType β} (hr : T.read = r)
    (hok : passthroughLoop h s = .ok () s') :
    ∃ vs, Sent (arrayType T).read vs (arrayBytes f vs) s s' := by
  obtain ⟨count, s₁, hcount, hok⟩ := bind_eq_ok hok
  have hcount := passthrough_sent (uvarInt_codes count).writes hcount
  obtain ⟨vs, hvs⟩ := repeatM_sent hh hok
  obtain ⟨c₁, hread, _⟩ := hcount.run
  obtain ⟨c, hreads, _⟩ := hvs.run
  have hlen : (vs.length : Int) = count := length_of_counted hread hreads
  refine ⟨vs, ?_⟩
  rw [arrayBytes, hlen]
  subst hr
  exact hcount.bind hvs

end SentLoops

end Endweave
