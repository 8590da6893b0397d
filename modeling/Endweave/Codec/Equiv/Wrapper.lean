import Endweave.Codec.Equiv.Primitives
import Endweave.Codec.Wrapper

/-!
# What handlers do to a packet

`Rewrites h inp out a`: in front of any suffix, the handler part `h` consumes exactly `inp`, appends
exactly `out` and returns `a`.  There is one rule for each wrapper operation followed by the rest of
the handler, so that a handler is walked through field by field.  `apply_of_rewrites` turns the
triple into the bytes of the translated packet.

`KeepsUser h` says that a handler leaves the connection alone, whatever the payload.
-/

namespace Endweave

open Wire PacketReader PacketWriter PacketWrapper

variable {α γ : Type}

/-! ### The triple -/

/-- In front of any suffix `h` consumes exactly `inp`, appends exactly `out` and returns `a`. -/
def Rewrites (h : WrapperM α) (inp out : List UInt8) (a : α) : Prop :=
  ∀ w suf, w.reader.Within → w.reader.rest = inp ++ suf →
    h w = .ok a { w with reader := w.reader.advance inp.length, writer := w.writer ++ out }

theorem Rewrites.pure (a : α) : Rewrites (pure a) [] [] a := by
  intro w suf _ _
  show EStateM.Result.ok a w = _
  rw [List.append_nil, List.length_nil, Cursor.advance_zero]

theorem Rewrites.bind {h : WrapperM α} {k : α → WrapperM γ} {inp inp' out out' : List UInt8} {a : α}
    {b : γ} (hh : Rewrites h inp out a) (hk : Rewrites (k a) inp' out' b) :
    Rewrites (h >>= k) (inp ++ inp') (out ++ out') b := by
  intro w suf hin hw
  rw [List.append_assoc] at hw
  have hin' := hin.advance_of_append hw
  have hw' := Cursor.rest_advance_of_append hw
  rw [bind_ok (hh w _ hin hw), hk _ suf hin' hw']
  simp only [Cursor.advance_advance, List.append_assoc, List.length_append]

/-- The last part, from which the result is computed. -/
theorem Rewrites.last {h : WrapperM α} {k : α → WrapperM γ} {inp out : List UInt8} {a : α} {b : γ}
    (hh : Rewrites h inp out a) (hk : k a = Pure.pure b) : Rewrites (h >>= k) inp out b := by
  rw [← List.append_nil inp, ← List.append_nil out]
  exact hh.bind (hk ▸ Rewrites.pure b)

/-- A part that only reads, then the rest. -/
theorem Rewrites.readThen {h : WrapperM α} {k : α → WrapperM γ} {inp inp' out : List UInt8} {a : α}
    {b : γ} (hh : Rewrites h inp [] a) (hk : Rewrites (k a) inp' out b) :
    Rewrites (h >>= k) (inp ++ inp') out b :=
  hh.bind hk

/-- A part that only writes, then the rest. -/
theorem Rewrites.writeThen {h : WrapperM α} {k : α → WrapperM γ} {inp out out' : List UInt8} {a : α}
    {b : γ} (hh : Rewrites h [] out a) (hk : Rewrites (k a) inp out' b) :
    Rewrites (h >>= k) inp (out ++ out') b :=
  hh.bind hk

theorem onReader_rewrites {m : Parser PyException UInt8 α} {bs : List UInt8} {a : α}
    (h : Reads m bs a) : Rewrites (onReader m) bs [] a := by
  intro w suf hin hw
  rw [onReader, h _ suf hin hw, List.append_nil]

theorem onWriter_rewrites {m : Printer PyException UInt8 Unit} {bs : List UInt8}
    (h : Writes m bs) : Rewrites (onWriter m) [] bs () := by
  intro w suf _ _
  rw [onWriter, h, List.length_nil, Cursor.advance_zero]

theorem Rewrites.discard {h : WrapperM α} {inp out : List UInt8} {a : α}
    (hh : Rewrites h inp out a) : Rewrites (discard h) inp out () := by
  intro w suf hin hw
  show EStateM.map (Function.const α ()) h w = _
  rw [EStateM.map, hh w suf hin hw]

/-! ### Rules for the wrapper operations -/

variable {T T' : FieldType α} {k : α → WrapperM γ} {k' : Unit → WrapperM γ} {inp out : List UInt8}
  {v : α} {b : γ}

theorem Rewrites.read (hT : T.RoundTrips v) (hk : Rewrites (k v) inp out b) :
    Rewrites (PacketWrapper.read T >>= k) (T.bytes v ++ inp) out b :=
  (onReader_rewrites hT.reads).bind hk

theorem Rewrites.write (hT : T.RoundTrips v) (hk : Rewrites (k' ()) inp out b) :
    Rewrites (PacketWrapper.write T v >>= k') inp (T.bytes v ++ out) b :=
  (onWriter_rewrites hT.writes).bind hk

theorem read_rewrites {bs : List UInt8} (hT : Reads T.read bs v) :
    Rewrites (PacketWrapper.read T) bs [] v := onReader_rewrites hT

theorem write_rewrites {bs : List UInt8} (hT : Writes (T.write v) bs) :
    Rewrites (PacketWrapper.write T v) [] bs () := onWriter_rewrites hT

theorem map_rewrites {bs bs' : List UInt8} (hT : Reads T.read bs v)
    (hT' : Writes (T'.write v) bs') : Rewrites (PacketWrapper.map T T') bs bs' v := by
  have h := (onReader_rewrites hT).bind (k := fun value => do
    onWriter (T'.write value)
    Pure.pure value) ((onWriter_rewrites hT').bind (Rewrites.pure v))
  rwa [List.nil_append, List.append_nil, List.append_nil] at h

theorem passthrough_rewrites (hT : T.RoundTrips v) :
    Rewrites (PacketWrapper.passthrough T) (T.bytes v) (T.bytes v) v :=
  map_rewrites hT.reads hT.writes

theorem Rewrites.passthrough (hT : T.RoundTrips v) (hk : Rewrites (k v) inp out b) :
    Rewrites (PacketWrapper.passthrough T >>= k) (T.bytes v ++ inp) (T.bytes v ++ out) b :=
  (passthrough_rewrites hT).bind hk

/-- Passing on whatever has been read. -/
theorem passthrough_of_read {w : PacketWrapper} {c : PacketReader} {bs : List UInt8}
    (hT : T.read w.reader = .ok v c) (hw : Writes (T.write v) bs) :
    PacketWrapper.passthrough T w = .ok v { w with reader := c, writer := w.writer ++ bs } := by
  have hread : onReader T.read w = .ok v { w with reader := c } := by rw [onReader, hT]
  have hwrite : onWriter (T.write v) { w with reader := c } =
      .ok () { w with reader := c, writer := w.writer ++ bs } := by rw [onWriter, hw]
  rw [PacketWrapper.passthrough, bind_ok hread, bind_ok hwrite]
  rfl

/-- A counted loop, one element after the other. -/
theorem Rewrites.repeatM {β : Type} {h : WrapperM Unit} {f g : β → List UInt8} {xs : List β}
    (hx : ∀ x ∈ xs, Rewrites h (f x) (g x) ()) :
    Rewrites (Wire.repeatM h xs.length) (xs.flatMap f) (xs.flatMap g) () := by
  induction xs with
  | nil => exact Rewrites.pure ()
  | cons x xs ih =>
    exact (hx x (List.mem_cons_self ..)).bind (ih fun y hy => hx y (List.mem_cons_of_mem _ hy))

/-- A counted loop that only reads. -/
theorem Rewrites.repeatM_skips {β : Type} {h : WrapperM Unit} {f : β → List UInt8} {xs : List β}
    (hx : ∀ x ∈ xs, Rewrites h (f x) [] ()) :
    Rewrites (Wire.repeatM h xs.length) (xs.flatMap f) [] () := by
  have hall := Rewrites.repeatM (g := fun _ => []) hx
  rwa [List.flatMap_eq_nil_iff.mpr fun _ _ => rfl] at hall

/-- A counted loop that reads a list. -/
theorem Rewrites.collect {h : WrapperM α} {f : α → List UInt8} {xs : List α}
    (hx : ∀ x ∈ xs, Rewrites h (f x) [] x) :
    Rewrites (Wire.collect h xs.length) (xs.flatMap f) [] xs := by
  induction xs with
  | nil => exact Rewrites.pure []
  | cons x xs ih =>
    have hxs := ih fun y hy => hx y (List.mem_cons_of_mem _ hy)
    have hcons := (hx x (List.mem_cons_self ..)).bind (k := fun a => do
      let as ← Wire.collect h xs.length
      Pure.pure (a :: as)) (hxs.bind (Rewrites.pure (x :: xs)))
    rwa [List.append_nil, List.append_nil, List.append_nil] at hcons

/-- A loop that writes a list. -/
theorem Rewrites.each {f : α → WrapperM Unit} {g : α → List UInt8} {xs : List α}
    (hx : ∀ x ∈ xs, Rewrites (f x) [] (g x) ()) :
    Rewrites (Wire.each f xs) [] (xs.flatMap g) () := by
  induction xs with
  | nil => exact Rewrites.pure ()
  | cons x xs ih =>
    exact (hx x (List.mem_cons_self ..)).bind (ih fun y hy => hx y (List.mem_cons_of_mem _ hy))

/-- A loop behind a count that is passed through. -/
theorem passthroughLoop_rewrites {β : Type} {h : WrapperM Unit} {f g : β → List UInt8} {xs : List β}
    (hlen : xs.length < 2 ^ 32) (hx : ∀ x ∈ xs, Rewrites h (f x) (g x) ()) :
    Rewrites (passthroughLoop h) (arrayBytes f xs) (arrayBytes g xs) () := by
  apply Rewrites.passthrough (uvarInt_roundTrips ⟨by omega, by omega⟩)
  rw [Int.toNat_natCast]
  exact Rewrites.repeatM hx

/-- A loop behind a zero does nothing, whatever its body. -/
theorem passthroughLoop_nil (h : WrapperM Unit) :
    Rewrites (passthroughLoop h) (uvarInt.bytes 0) (uvarInt.bytes 0) () := by
  rw [← List.append_nil (uvarInt.bytes 0)]
  exact Rewrites.passthrough (uvarInt_roundTrips (v := 0) (by decide)) (Rewrites.pure ())

/-- A loop behind a one is its body. -/
theorem passthroughLoop_one {h : WrapperM Unit} (hh : Rewrites h inp out ()) :
    Rewrites (passthroughLoop h) (uvarInt.bytes 1 ++ inp) (uvarInt.bytes 1 ++ out) () := by
  apply Rewrites.passthrough (uvarInt_roundTrips (v := 1) (by decide))
  rw [← List.append_nil inp, ← List.append_nil out]
  exact hh.bind (Rewrites.pure ())

/-- A loop that copies an array. -/
theorem passthroughLoop_array {h : WrapperM Unit} {xs : List α} (hlen : xs.length < 2 ^ 32)
    (hT : ∀ x ∈ xs, T.RoundTrips x) (hx : ∀ x ∈ xs, Rewrites h (T.bytes x) (T.bytes x) ()) :
    Rewrites (passthroughLoop h) ((arrayType T).bytes xs) ((arrayType T).bytes xs) () := by
  rw [arrayType_bytes hlen hT]
  exact passthroughLoop_rewrites hlen hx

/-- An optional field that is dropped. -/
theorem skipOptional_rewrites {v : Option α} (hT : ∀ a, v = some a → T.RoundTrips a) :
    Rewrites (do
      let present ← PacketWrapper.read bool
      if present then discard (PacketWrapper.read T) else Pure.pure ())
      ((optionalType T).bytes v) [] () := by
  cases v with
  | none => exact (read_rewrites (bool_roundTrips false).reads).bind (Rewrites.pure ())
  | some a =>
    rw [optionalType_bytes_some (hT a rfl)]
    exact (read_rewrites (bool_roundTrips true).reads).bind (read_rewrites (hT a rfl).reads).discard

/-- A part behind a flag that is passed through, and that is not there. -/
theorem passthroughOptional_none (body : PacketHandler) :
    Rewrites (passthroughOptional body) (bool.bytes false) (bool.bytes false) () :=
  (passthrough_rewrites (bool_roundTrips false)).last rfl

/-- A part behind a flag that is passed through, and that is there. -/
theorem passthroughOptional_some {body : PacketHandler} (hbody : Rewrites body inp out ()) :
    Rewrites (passthroughOptional body) (bool.bytes true ++ inp) (bool.bytes true ++ out) () :=
  (passthrough_rewrites (bool_roundTrips true)).bind hbody

/-! ### Whole packets -/

theorem toBytes_eq (w : PacketWrapper) : w.toBytes = w.writer ++ w.reader.rest := by
  unfold toBytes PacketReader.hasRemaining
  split_ifs with h
  · rfl
  · -- nothing is unread, so that there is nothing to append
    have hnil : w.reader.rest = [] := by
      rw [Cursor.rest, List.drop_eq_nil_iff]
      simpa using h
    rw [hnil, List.append_nil]

/-- `h` turns the whole of what is left, `inp`, into `out`, part of which it may leave unread. -/
def Translates (h : PacketHandler) (inp out : List UInt8) : Prop :=
  ∀ w, w.reader.Within → w.reader.rest = inp →
    ∃ w', h w = .ok () w' ∧ w'.toBytes = w.writer ++ out

theorem Translates.apply {h : PacketHandler} (hh : Translates h inp out) (user : UserConnection) :
    h.apply inp user = .ok out := by
  obtain ⟨w', hw', hout⟩ := hh (ofPayload inp user) (Cursor.within_start _) (Cursor.rest_start _)
  rw [PacketHandler.apply, hw']
  simp only [hout, ofPayload, List.nil_append]

/-- `h` turns the whole of what is left, `inp`, into `out` and does nothing else. -/
def Delivers (h : PacketHandler) (inp out : List UInt8) : Prop :=
  ∀ w, w.reader.Within → w.reader.rest = inp →
    ∃ w', h w = .ok () w' ∧ w'.toBytes = w.writer ++ out ∧ w'.user = w.user ∧
      w'.cancelled = w.cancelled

theorem Delivers.translates {h : PacketHandler} (hh : Delivers h inp out) :
    Translates h inp out := by
  intro w hin hw
  obtain ⟨w', hok, hout, _, _⟩ := hh w hin hw
  exact ⟨w', hok, hout⟩

/-- What a handler does not read is kept. -/
theorem Rewrites.delivers {h : PacketHandler} (hh : Rewrites h inp out ()) (suf : List UInt8) :
    Delivers h (inp ++ suf) (out ++ suf) := by
  intro w hin hw
  refine ⟨_, hh w suf hin hw, ?_, rfl, rfl⟩
  rw [toBytes_eq, Cursor.rest_advance_of_append hw, List.append_assoc]

theorem Rewrites.deliversAll {h : PacketHandler} (hh : Rewrites h inp out ()) :
    Delivers h inp out := by
  have hdelivers := hh.delivers []
  rwa [List.append_nil, List.append_nil] at hdelivers

theorem Rewrites.translates {h : PacketHandler} (hh : Rewrites h inp out ()) (suf : List UInt8) :
    Translates h (inp ++ suf) (out ++ suf) := (hh.delivers suf).translates

theorem Rewrites.bind_delivers {h : WrapperM α} {k : α → PacketHandler}
    {inp' out' : List UInt8} {a : α} (hh : Rewrites h inp out a) (hk : Delivers (k a) inp' out') :
    Delivers (h >>= k) (inp ++ inp') (out ++ out') := by
  intro w hin hw
  obtain ⟨w', hw', hout, huser, hcancelled⟩ :=
    hk { w with reader := w.reader.advance inp.length, writer := w.writer ++ out }
      (hin.advance_of_append hw) (Cursor.rest_advance_of_append hw)
  refine ⟨w', ?_, ?_, huser, hcancelled⟩
  · rw [bind_ok (hh w inp' hin hw)]
    exact hw'
  · rw [hout, List.append_assoc]

theorem passthroughAll_delivers (suf : List UInt8) :
    Delivers (passthroughAll >>= fun _ => Pure.pure ()) suf suf := by
  intro w hin hw
  refine ⟨{ w with
    reader := { w.reader with pos := w.reader.data.length }
    writer := w.writer ++ w.reader.rest }, rfl, ?_, rfl, rfl⟩
  rw [toBytes_eq, hw, Cursor.rest, List.drop_length, List.append_nil]

/-- A part that only reads, then the rest. -/
theorem Rewrites.readThen_delivers {h : WrapperM α} {k : α → PacketHandler}
    {inp' out' : List UInt8} {a : α} (hh : Rewrites h inp [] a) (hk : Delivers (k a) inp' out') :
    Delivers (h >>= k) (inp ++ inp') out' :=
  hh.bind_delivers hk

theorem Delivers.done (suf : List UInt8) : Delivers (Pure.pure ()) suf suf :=
  (Rewrites.pure ()).delivers suf

theorem Delivers.read {k : α → PacketHandler} (hT : T.RoundTrips v)
    (hk : Delivers (k v) inp out) :
    Delivers (PacketWrapper.read T >>= k) (T.bytes v ++ inp) out :=
  (read_rewrites hT.reads).bind_delivers hk

theorem Delivers.write {k : Unit → PacketHandler} (hT : T.RoundTrips v)
    (hk : Delivers (k ()) inp out) :
    Delivers (PacketWrapper.write T v >>= k) inp (T.bytes v ++ out) :=
  (write_rewrites hT.writes).bind_delivers hk

theorem Delivers.passthrough {k : α → PacketHandler} (hT : T.RoundTrips v)
    (hk : Delivers (k v) inp out) :
    Delivers (PacketWrapper.passthrough T >>= k) (T.bytes v ++ inp) (T.bytes v ++ out) :=
  (passthrough_rewrites hT).bind_delivers hk

/-- All that is left is dropped. -/
theorem dropRest_delivers (rest : List UInt8) :
    Delivers (PacketWrapper.read remainingBytes >>= fun _ => Pure.pure ()) rest [] := by
  intro w hin hw
  refine ⟨{ w with reader := { w.reader with pos := w.reader.data.length } }, rfl, ?_, rfl, rfl⟩
  rw [toBytes_eq]
  exact congrArg (w.writer ++ ·) List.drop_length

/-- All that is left is copied, and something is put behind it. -/
theorem passthroughAll_write_delivers {h : PacketHandler} {out : List UInt8}
    (hh : Rewrites h [] out ()) (suf : List UInt8) :
    Delivers (passthroughAll >>= fun _ => h) suf (suf ++ out) := by
  intro w hin hw
  have hend : Cursor.rest ({ w.reader with pos := w.reader.data.length } : PacketReader) = [] :=
    List.drop_length
  have hrun := hh { w with
    reader := { w.reader with pos := w.reader.data.length }
    writer := w.writer ++ w.reader.rest } [] (Nat.le_refl _) hend
  refine ⟨_, hrun, ?_, rfl, rfl⟩
  rw [toBytes_eq, List.length_nil, Cursor.advance_zero, hend, hw, List.append_nil,
    List.append_assoc]

/-- `h` cancels the packet when exactly `inp` is left to read. -/
def Cancels (h : PacketHandler) (inp : List UInt8) : Prop :=
  ∀ w, w.reader.Within → w.reader.rest = inp → ∃ w', h w = .ok () w' ∧ w'.cancelled = true

theorem cancel_cancels (inp : List UInt8) : Cancels cancel inp :=
  fun w _ _ => ⟨{ w with cancelled := true }, rfl, rfl⟩

theorem Rewrites.bind_cancels {h : WrapperM α} {k : α → PacketHandler} {inp' : List UInt8} {a : α}
    (hh : Rewrites h inp out a) (hk : Cancels (k a) inp') : Cancels (h >>= k) (inp ++ inp') := by
  intro w hin hw
  rw [bind_ok (hh w inp' hin hw)]
  exact hk _ (hin.advance_of_append hw) (Cursor.rest_advance_of_append hw)

theorem Cancels.read {k : α → PacketHandler} (hT : T.RoundTrips v) (hk : Cancels (k v) inp) :
    Cancels (PacketWrapper.read T >>= k) (T.bytes v ++ inp) :=
  (read_rewrites hT.reads).bind_cancels hk

theorem Cancels.passthrough {k : α → PacketHandler} (hT : T.RoundTrips v)
    (hk : Cancels (k v) inp) : Cancels (PacketWrapper.passthrough T >>= k) (T.bytes v ++ inp) :=
  (passthrough_rewrites hT).bind_cancels hk

theorem Rewrites.bind_translates {h : WrapperM α} {k : α → PacketHandler}
    {inp' out' : List UInt8} {a : α} (hh : Rewrites h inp out a) (hk : Translates (k a) inp' out') :
    Translates (h >>= k) (inp ++ inp') (out ++ out') := by
  intro w hin hw
  obtain ⟨w', hw', hout⟩ :=
    hk { w with reader := w.reader.advance inp.length, writer := w.writer ++ out }
      (hin.advance_of_append hw) (Cursor.rest_advance_of_append hw)
  refine ⟨w', ?_, ?_⟩
  · rw [bind_ok (hh w inp' hin hw)]
    exact hw'
  · rw [hout, List.append_assoc]

theorem Translates.read {k : α → PacketHandler} (hT : T.RoundTrips v)
    (hk : Translates (k v) inp out) :
    Translates (PacketWrapper.read T >>= k) (T.bytes v ++ inp) out :=
  (read_rewrites hT.reads).bind_translates hk

theorem Translates.write {k : Unit → PacketHandler} (hT : T.RoundTrips v)
    (hk : Translates (k ()) inp out) :
    Translates (PacketWrapper.write T v >>= k) inp (T.bytes v ++ out) :=
  (write_rewrites hT.writes).bind_translates hk

theorem passthroughAll_translates (suf : List UInt8) :
    Translates (passthroughAll >>= fun _ => Pure.pure ()) suf suf :=
  (passthroughAll_delivers suf).translates

/-- The packet a handler makes of what it consumes and an unread rest. -/
theorem apply_of_rewrites {h : PacketHandler} (hh : Rewrites h inp out ()) (suf : List UInt8)
    (user : UserConnection) : h.apply (inp ++ suf) user = .ok (out ++ suf) :=
  (hh.translates suf).apply user

theorem Rewrites.apply {h : PacketHandler} (hh : Rewrites h inp out ()) (user : UserConnection) :
    h.apply inp user = .ok out := by
  have happly := apply_of_rewrites hh [] user
  rwa [List.append_nil, List.append_nil] at happly

/-- `h` raises `e` when exactly `inp` is left to read. -/
def Raises (h : WrapperM α) (inp : List UInt8) (e : PyException) : Prop :=
  ∀ w, w.reader.Within → w.reader.rest = inp → ∃ w', h w = .error e w'

theorem Rewrites.bind_raises {h : WrapperM α} {k : α → WrapperM γ} {inp' : List UInt8} {a : α}
    {e : PyException} (hh : Rewrites h inp out a) (hk : Raises (k a) inp' e) :
    Raises (h >>= k) (inp ++ inp') e := by
  intro w hin hw
  rw [bind_ok (hh w inp' hin hw)]
  exact hk _ (hin.advance_of_append hw) (Cursor.rest_advance_of_append hw)

theorem Raises.read {k : α → WrapperM γ} {inp : List UInt8} {e : PyException}
    (hT : T.RoundTrips v) (hk : Raises (k v) inp e) :
    Raises (PacketWrapper.read T >>= k) (T.bytes v ++ inp) e :=
  (read_rewrites hT.reads).bind_raises hk

theorem Raises.bind {h : WrapperM α} {k : α → WrapperM γ} {inp : List UInt8} {e : PyException}
    (hh : Raises h inp e) : Raises (h >>= k) inp e := by
  intro w hin hw
  obtain ⟨w', herror⟩ := hh w hin hw
  exact ⟨w', bind_error herror⟩

/-- A field that cannot be read. -/
theorem passthrough_raises {bs : List UInt8} {e : PyException} (hT : FailsWith T.read bs e)
    (suf : List UInt8) : Raises (PacketWrapper.passthrough T) (bs ++ suf) e := by
  intro w hin hw
  obtain ⟨r, hread⟩ := hT w.reader suf hin hw
  refine ⟨{ w with reader := r }, bind_error ?_⟩
  rw [onReader, hread]

/-- A loop raises at the first element that is not in `p`, behind others that are rewritten. -/
theorem repeatM_raises {β : Type} {h : WrapperM Unit} {f g : β → List UInt8} {p : β → Prop}
    [DecidablePred p] {xs : List β} {e : PyException} (suf : List UInt8)
    (hx : ∀ x ∈ xs, if p x then Rewrites h (f x) (g x) () else ∀ suf, Raises h (f x ++ suf) e)
    (hfail : ¬ ∀ x ∈ xs, p x) : Raises (Wire.repeatM h xs.length) (xs.flatMap f ++ suf) e := by
  induction xs with
  | nil => exact absurd (List.forall_mem_nil p) hfail
  | cons x xs ih =>
    obtain ⟨hhead, htail⟩ := List.forall_mem_cons.mp hx
    rw [List.flatMap_cons, List.append_assoc]
    split_ifs at hhead with hp
    -- the first one that is not in `p` is behind this one, or it is this one
    · exact hhead.bind_raises (ih htail fun hall => hfail (List.forall_mem_cons.mpr ⟨hp, hall⟩))
    · exact (hhead _).bind

theorem passthroughLoop_raises {β : Type} {h : WrapperM Unit} {f g : β → List UInt8}
    {p : β → Prop} [DecidablePred p] {xs : List β} {e : PyException} (suf : List UInt8)
    (hlen : xs.length < 2 ^ 32)
    (hx : ∀ x ∈ xs, if p x then Rewrites h (f x) (g x) () else ∀ suf, Raises h (f x ++ suf) e)
    (hfail : ¬ ∀ x ∈ xs, p x) : Raises (passthroughLoop h) (arrayBytes f xs ++ suf) e := by
  have hcount : uvarInt.RoundTrips xs.length := uvarInt_roundTrips ⟨by omega, by omega⟩
  rw [arrayBytes, List.append_assoc]
  refine (passthrough_rewrites hcount).bind_raises ?_
  rw [Int.toNat_natCast]
  exact repeatM_raises suf hx hfail

theorem Raises.apply {h : PacketHandler} {inp : List UInt8} {e : PyException}
    (hh : Raises h inp e) (user : UserConnection) : h.apply inp user = .error e := by
  obtain ⟨w', hw'⟩ := hh (ofPayload inp user) (Cursor.within_start _) (Cursor.rest_start _)
  rw [PacketHandler.apply, hw']

theorem hasRemaining_eq (w : PacketWrapper) :
    hasRemaining w = .ok (!w.reader.rest.isEmpty) w := by
  have hrest : PacketReader.hasRemaining w.reader = !w.reader.rest.isEmpty := by
    unfold PacketReader.hasRemaining Cursor.rest
    rw [Bool.eq_iff_iff, decide_eq_true_iff, Bool.not_eq_true', List.isEmpty_eq_false_iff, ne_eq,
      List.drop_eq_nil_iff, Nat.not_le]
  rw [PacketWrapper.hasRemaining, hrest]

/-- The test for unread bytes, at the end of the data. -/
theorem hasRemaining_delivers {k : Bool → PacketHandler} {out : List UInt8}
    (hk : Delivers (k false) [] out) : Delivers (hasRemaining >>= k) [] out := by
  intro w hin hw
  rw [bind_ok (hasRemaining_eq w), hw]
  exact hk w hin hw

/-- The test for unread bytes, in front of some. -/
theorem hasRemaining_raises {k : Bool → WrapperM γ} {inp : List UInt8} {e : PyException}
    (hne : inp ≠ []) (hk : Raises (k true) inp e) : Raises (hasRemaining >>= k) inp e := by
  intro w hin hw
  have hsome : (!w.reader.rest.isEmpty) = true := by
    rw [hw, Bool.not_eq_true', List.isEmpty_eq_false_iff]
    exact hne
  rw [bind_ok (hasRemaining_eq w), hsome]
  exact hk w hin hw

theorem Raises.throw (inp : List UInt8) (e : PyException) : Raises (throw e : WrapperM α) inp e :=
  fun w _ _ => ⟨w, rfl⟩

theorem applyAll_cons {h : PacketHandler} {user : UserConnection} (hh : h.apply inp user = .ok out)
    (handlers : List PacketHandler) :
    PacketHandler.applyAll (h :: handlers) inp user = PacketHandler.applyAll handlers out user := by
  rw [PacketHandler.applyAll, List.foldlM_cons, hh]
  rfl

theorem applyAll_singleton (h : PacketHandler) (payload : List UInt8) (user : UserConnection) :
    PacketHandler.applyAll [h] payload user = h.apply payload user := by
  rw [PacketHandler.applyAll, List.foldlM_cons]
  exact bind_pure _

theorem applyAll_nil (payload : List UInt8) (user : UserConnection) :
    PacketHandler.applyAll [] payload user = .ok payload := rfl

/-! ### Handlers and the connection -/

/-- The handler leaves the connection alone, also when it raises. -/
def KeepsUser (h : WrapperM α) : Prop := ∀ w, (final (h w)).user = w.user

theorem KeepsUser.pure (a : α) : KeepsUser (pure a) := fun _ => rfl

theorem KeepsUser.bind {h : WrapperM α} {k : α → WrapperM γ} (hh : KeepsUser h)
    (hk : ∀ a, KeepsUser (k a)) : KeepsUser (h >>= k) := by
  intro w
  have hw := hh w
  cases hr : h w with
  | error e w' =>
    rw [hr] at hw
    rw [bind_error hr]
    exact hw
  | ok a w' =>
    rw [hr] at hw
    rw [bind_ok hr, hk a w']
    exact hw

theorem onReader_keepsUser (m : Parser PyException UInt8 α) : KeepsUser (onReader m) := by
  intro w
  unfold onReader
  cases m w.reader <;> rfl

theorem onWriter_keepsUser (m : Printer PyException UInt8 Unit) : KeepsUser (onWriter m) := by
  intro w
  unfold onWriter
  cases m w.writer <;> rfl

theorem read_keepsUser (T : FieldType α) : KeepsUser (PacketWrapper.read T) :=
  onReader_keepsUser T.read

theorem write_keepsUser (T : FieldType α) (v : α) : KeepsUser (PacketWrapper.write T v) :=
  onWriter_keepsUser (T.write v)

theorem map_keepsUser (T T' : FieldType α) : KeepsUser (PacketWrapper.map T T') :=
  (onReader_keepsUser _).bind fun v => (onWriter_keepsUser _).bind fun _ => KeepsUser.pure v

theorem passthrough_keepsUser (T : FieldType α) : KeepsUser (PacketWrapper.passthrough T) :=
  map_keepsUser T T

end Endweave
