import Endweave.Codec.Equiv.CodecType
import Endweave.Codec.Equiv.Wrapper
import Endweave.Lib.Relational

/-!
# What handlers do not depend on

Two relations between wrappers that every operation of a handler respects.  `Alike Q` relates
wrappers that differ in the connection only, by `Q`: a handler that respects it for every `Q`
neither looks at the connection nor changes it (`Blind`).  `Extended suf` relates wrappers whose
data differ in a suffix: a handler that respects it leaves alone what stands behind its packet
(`Extends`).

Handlers that ask where the data end do not respect `Extended`.  One that ends by copying all that
is left keeps a suffix nevertheless, which `Extends` covers.
-/

namespace Endweave

open Wire PacketWrapper

/-- The operations of a handler respect `R`, those apart that ask where the data end. -/
class Compatible (strict : Prop) (R : PacketWrapper → PacketWrapper → Prop) : Prop where
  relates_onReader : ∀ {α : Type} (m : Parser PyException UInt8 α) [Local m],
    Relates strict R (onReader m)
  relates_onWriter : ∀ m : Printer PyException UInt8 Unit, Relates strict R (onWriter m)
  relates_cancel : Relates strict R cancel

/-- All operations of a handler respect `R`. -/
class FullyCompatible (strict : Prop) (R : PacketWrapper → PacketWrapper → Prop) : Prop
    extends Compatible strict R where
  relates_anyReader : ∀ {α : Type} (m : Parser PyException UInt8 α), Relates strict R (onReader m)
  relates_hasRemaining : Relates strict R hasRemaining

/-! ### The operations -/

section Operations

variable {strict : Prop} {R : PacketWrapper → PacketWrapper → Prop} {α : Type} {T T' : FieldType α}

section Compatible

variable [Compatible strict R]

instance (m : Parser PyException UInt8 α) [Local m] : Relates strict R (onReader m) :=
  Compatible.relates_onReader m

instance (m : Printer PyException UInt8 Unit) : Relates strict R (onWriter m) :=
  Compatible.relates_onWriter m

instance : Relates strict R PacketWrapper.cancel := Compatible.relates_cancel

instance [T.Framed] : Relates strict R (PacketWrapper.read T) := by
  unfold PacketWrapper.read
  infer_instance

instance (v : α) : Relates strict R (PacketWrapper.write T v) := by
  unfold PacketWrapper.write
  infer_instance

instance [T.Framed] : Relates strict R (PacketWrapper.map T T') := by
  unfold PacketWrapper.map
  infer_instance

instance [T.Framed] : Relates strict R (PacketWrapper.passthrough T) := by
  unfold PacketWrapper.passthrough
  infer_instance

instance {body : WrapperM Unit} [Relates strict R body] :
    Relates strict R (passthroughLoop body) := by
  unfold passthroughLoop
  infer_instance

instance (condition : Bool) [T.Framed] : Relates strict R (passthroughIf condition T) := by
  unfold passthroughIf
  infer_instance

instance {body : PacketHandler} [Relates strict R body] :
    Relates strict R (passthroughOptional body) := by
  unfold passthroughOptional
  infer_instance

end Compatible

section FullyCompatible

variable [FullyCompatible strict R]

instance : Relates strict R passthroughAll := by
  have hremaining : Relates strict R (onReader PacketReader.readRemaining) :=
    FullyCompatible.relates_anyReader _
  unfold passthroughAll
  infer_instance

instance : Relates strict R (PacketWrapper.read remainingBytes) :=
  FullyCompatible.relates_anyReader _

instance : Relates strict R PacketWrapper.hasRemaining := FullyCompatible.relates_hasRemaining

end FullyCompatible

end Operations

/-! ### The connection -/

section Connection

variable (Q : UserConnection → UserConnection → Prop)

/-- The wrappers are the same but for their connections, which `Q` relates. -/
structure Alike (s t : PacketWrapper) : Prop where
  related : Q s.user t.user
  eq : t = { s with user := t.user }

theorem onReader_alike {α : Type} (m : Parser PyException UInt8 α) :
    Relates True (Alike Q) (onReader m) := by
  constructor
  rintro s t ⟨hQ, heq⟩
  rw [heq]
  unfold onReader
  dsimp only
  cases m s.reader with
  | ok a r => exact ⟨_, rfl, hQ, rfl⟩
  | error e r => exact fun _ => ⟨_, rfl, hQ, rfl⟩

instance : FullyCompatible True (Alike Q) where
  relates_onReader m _ := onReader_alike Q m
  relates_anyReader := onReader_alike Q
  relates_onWriter m := by
    constructor
    rintro s t ⟨hQ, heq⟩
    rw [heq]
    unfold PacketWrapper.onWriter
    dsimp only
    cases m s.writer with
    | ok a out => exact ⟨_, rfl, hQ, rfl⟩
    | error e out => exact fun _ => ⟨_, rfl, hQ, rfl⟩
  relates_cancel := ⟨fun s t ⟨hQ, heq⟩ => ⟨_, rfl, hQ, by rw [heq]⟩⟩
  relates_hasRemaining := ⟨fun s t hR => ⟨t, by rw [hR.eq]; rfl, hR⟩⟩

/-- What looks at the connection respects the relation, when it does not tell apart what `Q`
relates. -/
theorem relates_user {α : Type} {k : UserConnection → WrapperM α}
    (hk : ∀ u, Relates True (Alike Q) (k u)) (hQ : ∀ u v, Q u v → k u = k v) :
    Relates True (Alike Q) ((PacketWrapper.user <$> get) >>= k) := by
  constructor
  intro s t hR
  have hrun := (hk s.user).spec s t hR
  have ht : ((PacketWrapper.user <$> get) >>= k) t = k s.user t := by
    rw [hQ _ _ hR.related]
    rfl
  rw [ht]
  exact hrun

theorem relates_modifyUser {f : UserConnection → UserConnection}
    (hf : ∀ u v, Q u v → Q (f u) (f v)) :
    Relates True (Alike Q) (modify fun w => { w with user := f w.user } : WrapperM Unit) :=
  ⟨fun s t hR => ⟨_, rfl, hf _ _ hR.related, by rw [hR.eq]⟩⟩

end Connection

/-- A handler that neither looks at the connection nor changes it. -/
abbrev Blind (h : PacketHandler) : Prop := ∀ Q, Relates True (Alike Q) h

/-! ### Trailing bytes -/

/-- The second wrapper has `suf` behind the data of the first. -/
structure Extended (suf : List UInt8) (s t : PacketWrapper) : Prop where
  within : s.reader.Within
  eq : t = { s with reader := { s.reader with data := s.reader.data ++ suf } }

instance (suf : List UInt8) : Compatible False (Extended suf) where
  relates_onReader m _ := by
    constructor
    rintro s _ ⟨hin, rfl⟩
    unfold PacketWrapper.onReader
    dsimp only
    cases hm : m s.reader with
    | ok a r =>
      obtain ⟨hdata, _, hle, happ⟩ := Local.ok_append hin hm
      refine ⟨_, by rw [happ suf], ?_, ?_⟩
      · show r.pos ≤ r.data.length
        rw [hdata]
        exact hle
      · rw [← hdata]
    | error e r => exact fun h => h.elim
  relates_onWriter m := by
    constructor
    rintro s _ ⟨hin, rfl⟩
    unfold PacketWrapper.onWriter
    dsimp only
    cases m s.writer with
    | ok a out => exact ⟨_, rfl, hin, rfl⟩
    | error e out => exact fun h => h.elim
  relates_cancel := ⟨fun s _ ⟨hin, heq⟩ => ⟨_, rfl, hin, by rw [heq]⟩⟩

/-- Where the handler returns, it returns in front of any suffix too, cancels alike and keeps the
suffix. -/
class Extends (h : PacketHandler) : Prop where
  spec : ∀ suf s t, Extended suf s t → ∀ s', h s = .ok () s' →
    ∃ t', h t = .ok () t' ∧ t'.toBytes = s'.toBytes ++ suf ∧ t'.cancelled = s'.cancelled ∧
      t'.user = s'.user

theorem Extended.toBytes {suf : List UInt8} {s t : PacketWrapper} (h : Extended suf s t) :
    t.toBytes = s.toBytes ++ suf := by
  obtain ⟨hin, rfl⟩ := h
  rw [toBytes_eq, toBytes_eq, List.append_assoc]
  exact congrArg (s.writer ++ ·) (List.drop_append_of_le_length hin)

/-- A handler that does not ask where the data end. -/
instance (priority := low) {h : PacketHandler} [∀ suf, Relates False (Extended suf) h] :
    Extends h := by
  constructor
  intro suf s t hR s' hs
  have hh : Relates False (Extended suf) h := inferInstance
  obtain ⟨t', ht, hR'⟩ := hh.of_ok hR hs
  exact ⟨t', ht, hR'.toBytes, by rw [hR'.eq], by rw [hR'.eq]⟩

theorem Extends.bind {α : Type} {m : WrapperM α} {k : α → PacketHandler}
    (hm : ∀ suf, Relates False (Extended suf) m) (hk : ∀ a, Extends (k a)) :
    Extends (m >>= k) := by
  constructor
  intro suf s t hR s' hs
  obtain ⟨a, s₁, hrun, hrest⟩ := bind_eq_ok hs
  obtain ⟨t₁, ht, hR₁⟩ := (hm suf).of_ok hR hrun
  rw [bind_ok ht]
  exact (hk a).spec suf s₁ t₁ hR₁ s' hrest

instance {α : Type} {m : WrapperM α} {k : α → PacketHandler}
    [∀ suf, Relates False (Extended suf) m] [∀ a, Extends (k a)] : Extends (m >>= k) :=
  Extends.bind inferInstance inferInstance

/-- A handler that ends by copying all that is left. -/
instance : Extends (passthroughAll >>= fun _ => pure ()) := by
  constructor
  rintro suf s _ ⟨hin, rfl⟩ s' hs
  have hrest : (List.drop s.reader.pos (s.reader.data ++ suf)) =
      List.drop s.reader.pos s.reader.data ++ suf := List.drop_append_of_le_length hin
  obtain ⟨_, rfl⟩ := EStateM.Result.ok.inj hs
  refine ⟨_, rfl, ?_, rfl, rfl⟩
  rw [toBytes_eq, toBytes_eq]
  simp only [Cursor.rest, List.drop_length, List.append_nil, hrest,
    List.append_assoc]

instance {p : Prop} [Decidable p] {h h' : PacketHandler} [Extends h] [Extends h'] :
    Extends (if p then h else h') := by
  split_ifs <;> infer_instance

end Endweave
