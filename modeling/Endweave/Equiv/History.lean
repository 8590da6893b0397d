import Endweave.Equiv.Session

/-!
# Answers from the history of an address

The session of an address is a function of the serverbound packets received from it since it was
last removed (`packetsFrom`): its packets are translated from the first version other than zero that
a packet before the last one has declared, and the last declaration stands (`session_after`).  So
the answer to any packet at any point of any run has a closed form (`answer_receive`,
`answer_send`), in which nothing else of the run occurs.
-/

namespace Endweave

open Wire

/-! ### What an address has sent -/

/-- A serverbound packet: its id and its payload. -/
abbrev Packet := Int × List UInt8

/-- What one event does to the packets received from an address. -/
def receiveFrom (address : String) (packets : List Packet) : Event → List Packet
  | .receive event =>
    if event.address = address then packets ++ [(event.packetId, event.payload)] else packets
  | .send _ => packets
  | .removeByAddress removed => if removed = address then [] else packets
  | .removeByPlayer removed => if removed = address then [] else packets

/-- The serverbound packets received from an address since it was last removed. -/
def packetsFrom (address : String) (es : List Event) : List Packet :=
  es.foldl (receiveFrom address) []

/-- The version that a packet declares, if it is a RequestNetworkSettings that is long enough. -/
def declaration (packet : Packet) : Option Int :=
  if packet.1 = PacketId.requestNetworkSettings ∧ 4 ≤ packet.2.length then
    some (declaredVersion packet.2)
  else none

/-- A version to translate from: zero stands for an undetected one. -/
def detection (packet : Packet) : Option Int :=
  (declaration packet).filter (· ≠ 0)

/-- The first version other than zero that packets declare. -/
def firstDetected (packets : List Packet) : Option Int := packets.findSome? detection

/-- The last version that packets declare, zero if there is none. -/
def lastDeclared (packets : List Packet) : Int := (packets.reverse.findSome? declaration).getD 0

/-! ### Sessions -/

theorem lastDeclared_append (packets : List Packet) (packet : Packet) :
    lastDeclared (packets ++ [packet]) = (declaration packet).getD (lastDeclared packets) := by
  unfold lastDeclared
  rw [List.reverse_append, List.reverse_singleton, List.singleton_append, List.findSome?_cons]
  cases declaration packet <;> rfl

theorem firstDetected_append (packets : List Packet) (packet : Packet) :
    firstDetected (packets ++ [packet]) = (firstDetected packets).or (detection packet) := by
  unfold firstDetected
  rw [List.findSome?_append]
  simp

/-- Without a version other than zero the last declaration is zero. -/
theorem lastDeclared_eq_zero {packets : List Packet} (h : firstDetected packets = none) :
    lastDeclared packets = 0 := by
  induction packets using List.reverseRecOn with
  | nil => rfl
  | append_singleton packets packet ih =>
    rw [firstDetected_append, Option.or_eq_none_iff] at h
    rw [lastDeclared_append]
    cases hd : declaration packet with
    | none => exact ih h.1
    | some version =>
      have hzero := h.2
      rw [detection, hd, Option.filter_eq_none_iff] at hzero
      simpa using hzero version

/-- The session of an address that has sent packets. -/
def sessionOf (packets : List Packet) : Session where
  declared := lastDeclared packets
  settled := firstDetected packets.dropLast

/-- The next packet finds the session settled with the first version that was declared. -/
theorem sessionOf_settle (packets : List Packet) :
    (sessionOf packets).settle = { sessionOf packets with settled := firstDetected packets } := by
  unfold Session.settle sessionOf
  induction packets using List.reverseRecOn with
  | nil => rfl
  | append_singleton packets packet _ =>
    rw [List.dropLast_concat, firstDetected_append, lastDeclared_append]
    cases hf : firstDetected packets with
    | some version => simp
    | none =>
      rw [lastDeclared_eq_zero hf, detection]
      cases hd : declaration packet with
      | none => simp
      | some version =>
        by_cases hv : version = 0
        · simp [hv, Option.filter]
        · simp [hv, Option.filter]

theorem sessionOf_append (packets : List Packet) (packet : Packet) :
    sessionOf (packets ++ [packet]) = (sessionOf packets).settle.hear packet.1 packet.2 := by
  rw [sessionOf_settle, sessionOf, List.dropLast_concat, lastDeclared_append, Session.hear,
    declaration]
  split_ifs <;> rfl

/-! ### Runs -/

theorem Sessions.find_update (t : Sessions) (updated address : String) (o : Option Session) :
    Sessions.find (Function.update t updated o) address =
      if updated = address then o.getD {} else t.find address := by
  unfold Sessions.find
  by_cases ha : updated = address
  · rw [if_pos ha, ← ha, Function.update_self]
  · rw [if_neg ha, Function.update_of_ne (Ne.symm ha)]

section Runs

variable (serverProtocol : Int) (chain : Int → Option (List Protocol))

theorem Sessions.find_step {t : Sessions} {address : String} {packets : List Packet}
    (h : t.find address = sessionOf packets) (e : Event) :
    (Sessions.step serverProtocol chain t e).1.find address =
      sessionOf (receiveFrom address packets e) := by
  cases e with
  | receive event =>
    dsimp only [Sessions.step, receiveFrom]
    rw [Sessions.find_update]
    split_ifs with ha
    · rw [sessionOf_append, ← h, ha]
      rfl
    · exact h
  | send event => exact h
  | removeByAddress removed | removeByPlayer removed =>
    dsimp only [Sessions.step, receiveFrom]
    rw [Sessions.find_update]
    split_ifs with ha
    · rfl
    · exact h

/-- **The session of an address after a run.** -/
theorem Sessions.find_run (address : String) (es : List Event) :
    (EventSystem.run (Sessions.step serverProtocol chain) (fun _ => none) es).1.find address =
      sessionOf (packetsFrom address es) := by
  suffices h : ∀ (t : Sessions) (packets : List Packet), t.find address = sessionOf packets →
      (EventSystem.run (Sessions.step serverProtocol chain) t es).1.find address =
        sessionOf (es.foldl (receiveFrom address) packets) from h _ [] rfl
  induction es with
  | nil => exact fun t packets h => h
  | cons e es ih => exact fun t packets h => ih _ _ (Sessions.find_step serverProtocol chain h e)

end Runs

/-! ### Answers -/

section Answers

variable {serverProtocol : Int} {m : ProtocolManager} (hm : DetachedRegistry serverProtocol m)
  {s : ProxyState} (h : Simulates serverProtocol m s fun _ => none)

include hm h

/-- The version of a connection is the last one that its address declared. -/
theorem clientProtocol_after (address : String) (es : List Event) :
    (((EventSystem.run step s es).1.connections.get address).map fun c => c.clientProtocol).getD 0 =
      lastDeclared (packetsFrom address es) := by
  have hrun := (h.run hm es).1
  have hfind := Sessions.find_run serverProtocol (chainOf serverProtocol m) address es
  unfold Sessions.find at hfind
  rcases hrun.lookup address with ⟨hc, ht⟩ | ⟨c, session, hc, ht, hrep⟩
  · rw [ht] at hfind
    rw [hc]
    exact congrArg Session.declared hfind
  · rw [ht] at hfind
    rw [hc]
    exact hrep.declared.trans (congrArg Session.declared hfind)

/-- **The answer to a serverbound packet** after any run: it is translated from the first version
that its address has declared. -/
theorem answer_receive (es : List Event) (event : PacketEvent) :
    (step (EventSystem.run step s es).1 (.receive event)).2 =
      .packet (event.deliver (translate serverProtocol .serverbound event.packetId
        (serverboundFor serverProtocol (chainOf serverProtocol m)
          (firstDetected (packetsFrom event.address es))) event.payload)) := by
  rw [((h.run hm es).1.step hm (.receive event)).2]
  dsimp only [Sessions.step]
  rw [Sessions.find_run, sessionOf_settle]

/-- **The answer to a clientbound packet** after any run: the last packet of its address does not
count yet. -/
theorem answer_send (es : List Event) (event : PacketEvent) :
    (step (EventSystem.run step s es).1 (.send event)).2 =
      .packet (event.deliver (translate serverProtocol .clientbound event.packetId
        (clientboundFor serverProtocol (chainOf serverProtocol m)
          (firstDetected (packetsFrom event.address es).dropLast)) event.payload)) := by
  rw [((h.run hm es).1.step hm (.send event)).2]
  dsimp only [Sessions.step]
  rw [Sessions.find_run]
  rfl

end Answers

end Endweave
