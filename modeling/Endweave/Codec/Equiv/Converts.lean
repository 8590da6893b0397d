import Endweave.Codec.Equiv.Wrapper

/-!
# Handlers between two grammars

`Converts h w w' a`: in front of any suffix, the handler part `h` consumes exactly what the printer
`w` writes, appends exactly what `w'` writes and returns `a`.  A handler is compared with the codecs
of its two versions by walking through all three side by side, without naming a byte.
-/

namespace Endweave

open Wire PacketWrapper

variable {α γ : Type}

/-- `h` turns what `w` writes into what `w'` writes, and returns `a`. -/
def Converts (h : WrapperM α) (w w' : Printer PyException UInt8 Unit) (a : α) : Prop :=
  ∃ inp out, Writes w inp ∧ Writes w' out ∧ Rewrites h inp out a

theorem Converts.pure (a : α) : Converts (pure a) (pure ()) (pure ()) a :=
  ⟨[], [], Writes.pure, Writes.pure, Rewrites.pure a⟩

section Rules

variable {h : WrapperM α} {k : α → WrapperM γ} {w w' : Printer PyException UInt8 Unit}
  {u u' : Unit → Printer PyException UInt8 Unit} {a : α} {b : γ}

theorem Converts.bind (hh : Converts h w w' a) (hk : Converts (k a) (u ()) (u' ()) b) :
    Converts (h >>= k) (w >>= u) (w' >>= u') b := by
  obtain ⟨inp, out, hw, hw', hr⟩ := hh
  obtain ⟨inp', out', hu, hu', hr'⟩ := hk
  exact ⟨inp ++ inp', out ++ out', hw.bind hu, hw'.bind hu', hr.bind hr'⟩

theorem Converts.spec (hh : Converts h w w' a) :
    Writes w (written w) ∧ Writes w' (written w') ∧ Rewrites h (written w) (written w') a := by
  obtain ⟨inp, out, hw, hw', hr⟩ := hh
  rw [hw.written, hw'.written]
  exact ⟨hw, hw', hr⟩

/-- The last part, from which the result is computed. -/
theorem Converts.last (hh : Converts h w w' a) (hk : k a = Pure.pure b) :
    Converts (h >>= k) w w' b := by
  obtain ⟨inp, out, hw, hw', hr⟩ := hh
  exact ⟨inp, out, hw, hw', hr.last hk⟩

variable {T T' : FieldType α} {v v' : α}

/-- A field that is read as `v'` and written with another type. -/
theorem converts_map_of_writes {bs : List UInt8} (hT : Codes w T.read v')
    (hT' : Writes (T'.write v') bs) : Converts (PacketWrapper.map T T') w (T'.write v') v' :=
  ⟨_, bs, hT.writes, hT', map_rewrites hT.reads hT'⟩

/-- The other type may drop a part of it. -/
theorem converts_map {v'' : α} (hT : Codes w T.read v') (hT' : Codes (T'.write v') T'.read v'') :
    Converts (PacketWrapper.map T T') w (T'.write v') v' :=
  converts_map_of_writes hT hT'.writes

theorem converts_passthrough (hT : T.RoundTrips v) :
    Converts (PacketWrapper.passthrough T) (T.write v) (T.write v) v :=
  converts_map hT hT

theorem Converts.passthrough (hT : T.RoundTrips v) (hk : Converts (k v) (u ()) (u' ()) b) :
    Converts (PacketWrapper.passthrough T >>= k) (T.write v >>= u) (T.write v >>= u') b :=
  (converts_passthrough hT).bind hk

/-- A field that is only read, then the rest. -/
theorem Converts.read (hT : Codes (T.write v) T.read v') (hk : Converts (k v') (u ()) w' b) :
    Converts (PacketWrapper.read T >>= k) (T.write v >>= u) w' b := by
  obtain ⟨inp, out, hu, hw', hr⟩ := hk
  exact ⟨_, _, hT.writes.bind hu, hw', Rewrites.readThen (read_rewrites hT.reads) hr⟩

theorem converts_write (hT : T.RoundTrips v) :
    Converts (PacketWrapper.write T v) (Pure.pure ()) (T.write v) () :=
  ⟨[], _, Writes.pure, hT.writes, write_rewrites hT.writes⟩

theorem passthroughIf_converts {condition : Bool} {absent : α} (hT : T.RoundTrips v) :
    Converts (passthroughIf condition T) ((fieldIf condition T absent).write v)
      ((fieldIf condition T absent).write v) () := by
  cases condition with
  | false => exact Converts.pure ()
  | true =>
    have hdiscard := (passthrough_rewrites hT).discard
    exact ⟨_, _, hT.writes, hT.writes, hdiscard⟩

/-- A part behind a flag that is passed through. -/
theorem passthroughOptional_converts {β : Type} {A B : FieldType β} {x : Option β}
    {body : PacketHandler} (hx : ∀ b, x = some b → Converts body (A.write b) (B.write b) ()) :
    Converts (passthroughOptional body) ((optionalType A).write x) ((optionalType B).write x)
      () := by
  cases x with
  | none => exact (converts_passthrough (bool_roundTrips false)).last rfl
  | some b => exact Converts.passthrough (bool_roundTrips true) (hx b rfl)

/-- A loop over an array, behind a count that is passed through. -/
theorem converts_passthroughLoop {β β' : Type} {A : FieldType β} {B : FieldType β'} {xs : List β}
    {f : β → β'} {h : PacketHandler} (hlen : xs.length < 2 ^ 32)
    (hx : ∀ x ∈ xs, Converts h (A.write x) (B.write (f x)) ()) :
    Converts (passthroughLoop h) ((arrayType A).write xs) ((arrayType B).write (xs.map f)) () := by
  have hcount : uvarInt.RoundTrips xs.length := uvarInt_roundTrips ⟨by omega, by omega⟩
  refine ⟨arrayBytes A.bytes xs, arrayBytes (fun x => B.bytes (f x)) xs, ?_, ?_,
    passthroughLoop_rewrites hlen fun x hm => (hx x hm).spec.2.2⟩
  · exact hcount.writes.bind (Writes.each fun x hm => (hx x hm).spec.1)
  · rw [← arrayBytes_map, arrayBytes]
    rw [← List.length_map (f := f)] at hcount
    refine hcount.writes.bind (Writes.each fun y hy => ?_)
    obtain ⟨x, hm, rfl⟩ := List.mem_map.mp hy
    exact (hx x hm).spec.2.1

/-- A loop over an array that keeps its elements. -/
theorem converts_passthroughLoop_same {β : Type} {A B : FieldType β} {xs : List β}
    {h : PacketHandler} (hlen : xs.length < 2 ^ 32)
    (hx : ∀ x ∈ xs, Converts h (A.write x) (B.write x) ()) :
    Converts (passthroughLoop h) ((arrayType A).write xs) ((arrayType B).write xs) () := by
  have hall := converts_passthroughLoop (f := id) hlen hx
  rwa [List.map_id] at hall

theorem Converts.rewrites {β β' : Type} {A : FieldType β} {B : FieldType β'} {x : β} {y : β'}
    (hh : Converts h (A.write x) (B.write y) a) : Rewrites h (A.bytes x) (B.bytes y) a :=
  hh.spec.2.2

/-- What a handler makes of a packet is the other packet. -/
theorem Converts.parses {β β' : Type} {h : PacketHandler} {A : FieldType β} {B : FieldType β'}
    {x : β} {y : β'} (hh : Converts h (A.write x) (B.write y) ()) (hy : B.RoundTrips y)
    (user : UserConnection) :
    ∃ out, h.apply (A.bytes x) user = .ok out ∧ B.Parses out y :=
  ⟨B.bytes y, hh.rewrites.apply user, hy.parses⟩

end Rules

end Endweave
