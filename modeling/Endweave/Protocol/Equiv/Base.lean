import Endweave.Codec.Equiv.Untrusted
import Endweave.Protocol.Base

/-!
# The handlers of the base protocol

`detectClientProtocol_user` says what RequestNetworkSettings does to the connection: the version in
its first four bytes is stored, even when writing the server's version then raises, and a shorter
packet stores nothing.

`logPacketViolation_unchanged_iff` says which payloads a PacketViolationWarning survives: those that
consist of canonical fields as far as they go.  A field that is cut off, cannot be decoded or is not
encoded canonically is dropped or rewritten.
-/

namespace Endweave

open Wire PacketReader PacketWriter PacketWrapper

/-! ### Version detection -/

/-- The version a RequestNetworkSettings packet declares. -/
def declaredVersion (payload : List UInt8) : Int := StructFormat.intBE.decode (payload.take 4)

theorem detectClientProtocol_user (payload : List UInt8) (user : UserConnection) :
    (final (detectClientProtocol (ofPayload payload user))).user =
      if 4 ≤ payload.length then { user with clientProtocol := declaredVersion payload }
      else user := by
  unfold detectClientProtocol
  by_cases h : 4 ≤ payload.length
  · have hread : PacketWrapper.read intBE (ofPayload payload user) =
        .ok (declaredVersion payload)
          { ofPayload payload user with reader := ⟨payload, 4⟩ } := by
      show onReader (unpack .intBE) (ofPayload payload user) = _
      rw [onReader, unpack, if_neg (by rw [ofPayload, Cursor.rest_start]; exact Nat.not_lt.mpr h)]
      rfl
    -- the version is stored before the server's is written, which may raise
    rw [if_pos h, bind_ok hread]
    exact write_keepsUser intBE _ _
  · have hread : PacketWrapper.read intBE (ofPayload payload user) =
        .error .structError (ofPayload payload user) := by
      show onReader (unpack .intBE) (ofPayload payload user) = _
      rw [onReader, unpack, if_pos (by rw [ofPayload, Cursor.rest_start]; exact Nat.not_le.mp h)]
    rw [if_neg h, bind_error hread]
    rfl

theorem get_keepsUser : KeepsUser (PacketWrapper.user <$> get) := fun _ => rfl

theorem rewriteLogin_keepsUser : KeepsUser rewriteLogin :=
  get_keepsUser.bind fun _ => (read_keepsUser intBE).bind fun _ => write_keepsUser intBE _

theorem swallow_eq (h : PacketHandler) (w : PacketWrapper) :
    swallow h w = .ok () (final (h w)) := by
  unfold swallow
  cases h w <;> rfl

theorem swallow_keepsUser {h : PacketHandler} (hh : KeepsUser h) : KeepsUser (swallow h) := by
  intro w
  rw [swallow_eq]
  exact hh w

theorem logPacketViolation_keepsUser : KeepsUser logPacketViolation :=
  swallow_keepsUser <|
    (passthrough_keepsUser varInt).bind fun _ => (passthrough_keepsUser varInt).bind fun _ =>
      (passthrough_keepsUser varInt).bind fun _ => (passthrough_keepsUser string).bind fun _ =>
        KeepsUser.pure ()

/-! ### Packet violations -/

theorem Relays.swallow {h : PacketHandler} {P : List UInt8 → Prop} (hh : Relays h P) :
    Relays (swallow h) P := by
  intro w hw
  rw [swallow_eq]
  exact hh w hw

/-- The payload consists of canonical violation fields as far as they go: it ends before one of the
three varints or the string, or has all four and then anything. -/
def CanonicalViolation (payload : List UInt8) : Prop :=
  FieldThen varInt InInt32 (FieldThen varInt InInt32 (FieldThen varInt InInt32
    (FieldThen string FitsString fun _ => True))) payload

theorem logPacketViolation_relays : Relays logPacketViolation CanonicalViolation :=
  Relays.swallow <|
    Relays.passthrough copies_varInt fun _ => Relays.passthrough copies_varInt fun _ =>
      Relays.passthrough copies_varInt fun _ => Relays.passthrough copies_string fun _ =>
        Relays.pure ()

/-- **What a packet violation survives**: the handler forwards a payload unchanged exactly when it
consists of canonical fields as far as they go. -/
theorem logPacketViolation_unchanged_iff (payload : List UInt8) (user : UserConnection) :
    logPacketViolation.apply payload user = .ok payload ↔ CanonicalViolation payload := by
  obtain ⟨g, hg, _, hiff⟩ := logPacketViolation_relays (ofPayload payload user)
    (Cursor.within_start _)
  have happly : logPacketViolation.apply payload user = .ok g := by
    rw [logPacketViolation, swallow_eq, final_ok] at hg
    rw [PacketHandler.apply, logPacketViolation, swallow_eq]
    exact congrArg Except.ok hg
  rw [happly, Except.ok.injEq]
  exact hiff

/-- **A failing decode loses bytes**: a lone byte with the continuation bit is consumed by the read
that fails, and does not reach the client. -/
theorem logPacketViolation_loses :
    logPacketViolation.apply [0x80] { address := "a" } = .ok [] ∧
      logPacketViolation.apply [0x80] { address := "a" } ≠ .ok [0x80] := by
  have h : logPacketViolation.apply [0x80] { address := "a" } = .ok [] := rfl
  exact ⟨h, by rw [h]; simp⟩

end Endweave
