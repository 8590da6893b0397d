import Endweave.Protocol.Equiv.Manager

/-!
# Correctness of `get_supported_versions`

`supportedVersions_correct`: after any interleaving of `register`, `get_path` and
`get_supported_versions` calls, the answer lists in strictly ascending order the server version and
the versions a chain leads from, and the calls of `get_supported_versions` in between changed no
answer to the other calls.

Only the client ends of registered protocols are tried.  That is enough, as a chain that is not
empty starts at one of them (`isChain_start`).
-/

namespace Endweave

namespace ProtocolManager

/-! ### The registry of two managers -/

/-- Both managers hold the same protocols; their caches may differ. -/
def SameRegistry (m m' : ProtocolManager) : Prop :=
  m.protocols = m'.protocols ∧ m.baseProtocols = m'.baseProtocols

theorem SameRegistry.trans {m m' m'' : ProtocolManager} (h : m.SameRegistry m')
    (h' : m'.SameRegistry m'') : m.SameRegistry m'' :=
  ⟨h.1.trans h'.1, h.2.trans h'.2⟩

theorem SameRegistry.isChain {m m' : ProtocolManager} (h : m.SameRegistry m') (server client : Int)
    (chain : List Protocol) : m.IsChain server client chain ↔ m'.IsChain server client chain := by
  rw [IsChain, IsChain]
  simp only [Registered, get, h.1]

/-- Coherent managers of the same protocols resolve alike, whatever they have cached. -/
theorem Coherent.getPath_congr {m m' : ProtocolManager} (hm : m.Coherent) (hm' : m'.Coherent)
    (h : m.SameRegistry m') (server client : Int) :
    (m.getPath server client).1 = (m'.getPath server client).1 := by
  rw [hm.getPath_fst, hm'.getPath_fst, h.1]

/-! ### The loop over the registered pairs -/

theorem Coherent.getPath_isSome_iff {m : ProtocolManager} (h : m.Coherent) (server client : Int) :
    (m.getPath server client).1.isSome = true ↔ ∃ chain, m.IsChain server client chain := by
  have hres := h.getPath_resolves server client
  cases hp : (m.getPath server client).1 with
  | some chain =>
    rw [hp] at hres
    exact ⟨fun _ => ⟨chain, hres.1⟩, fun _ => rfl⟩
  | none =>
    rw [hp] at hres
    constructor
    · intro hsome
      exact absurd hsome (by simp)
    · rintro ⟨chain, hchain⟩
      exact absurd hchain (hres chain)

/-- What one run of the loop leaves: the registry as it was, and the client ends among `pairs` that
reach the server added to the versions found before. -/
theorem Coherent.collectSupported_spec {m : ProtocolManager} (h : m.Coherent) (server : Int)
    (pairs : List (Int × Int)) (supported : Finset Int) :
    (collectSupported server pairs supported m).2.Coherent ∧
      m.SameRegistry (collectSupported server pairs supported m).2 ∧
      ∀ c, c ∈ (collectSupported server pairs supported m).1 ↔
        c ∈ supported ∨ (∃ pair ∈ pairs, pair.2 = c) ∧ ∃ chain, m.IsChain server c chain := by
  induction pairs generalizing m supported with
  | nil =>
    have hmem : ∀ c, c ∈ (collectSupported server [] supported m).1 ↔ c ∈ supported ∨
        (∃ pair ∈ ([] : List (Int × Int)), pair.2 = c) ∧ ∃ chain, m.IsChain server c chain := by
      intro c
      simp [collectSupported]
    exact ⟨h, ⟨rfl, rfl⟩, hmem⟩
  | cons pair pairs ih =>
    have hsame : m.SameRegistry (m.getPath server pair.2).2 := by
      have hsnd := getPath_snd_protocols m server pair.2
      exact ⟨hsnd.1.symm, hsnd.2.symm⟩
    unfold collectSupported
    obtain ⟨hcoh, hreg, hmem⟩ := ih (h.getPath_snd server pair.2)
      (if (m.getPath server pair.2).1.isSome then insert pair.2 supported else supported)
    refine ⟨hcoh, hsame.trans hreg, fun c => ?_⟩
    rw [hmem]
    simp only [← hsame.isChain]
    -- the version of this round is added exactly when it has a chain
    have hround : c ∈ (if (m.getPath server pair.2).1.isSome then insert pair.2 supported
        else supported) ↔ c ∈ supported ∨ pair.2 = c ∧ ∃ chain, m.IsChain server c chain := by
      by_cases hp : (m.getPath server pair.2).1.isSome = true
      · have hchain := (h.getPath_isSome_iff server pair.2).mp hp
        rw [if_pos hp, Finset.mem_insert]
        constructor
        · rintro (rfl | hc)
          · exact Or.inr ⟨rfl, hchain⟩
          · exact Or.inl hc
        · rintro (hc | ⟨rfl, _⟩)
          · exact Or.inr hc
          · exact Or.inl rfl
      · have hchain := fun hex => hp ((h.getPath_isSome_iff server pair.2).mpr hex)
        rw [if_neg hp]
        constructor
        · exact Or.inl
        · rintro (hc | ⟨rfl, hex⟩)
          · exact hc
          · exact absurd hex hchain
    -- the rounds that follow ask a manager with the same registry
    rw [hround, List.exists_mem_cons_iff]
    tauto

/-! ### The supported versions -/

/-- A chain is empty, or it starts at the client end of a registered pair. -/
theorem isChain_start {m : ProtocolManager} {server client : Int} {chain : List Protocol}
    (hchain : m.IsChain server client chain) :
    client = server ∨ ∃ pair ∈ m.protocols.keys, pair.2 = client := by
  cases chain with
  | nil => exact Or.inl hchain
  | cons p chain =>
    obtain ⟨hp, hclient, _⟩ := hchain
    have hmem := OrderedDict.mem_of_get? (show m.protocols.get? _ = some p from hp)
    exact Or.inr ⟨_, List.mem_map_of_mem hmem, hclient⟩

theorem Coherent.mem_getSupportedVersions {m : ProtocolManager} (h : m.Coherent)
    (server c : Int) : c ∈ (m.getSupportedVersions server).1 ↔
      c = server ∨ ∃ chain, m.IsChain server c chain := by
  have hspec := (h.collectSupported_spec server m.protocols.keys {server}).2.2 c
  rw [getSupportedVersions, Finset.mem_sort, hspec, Finset.mem_singleton]
  constructor
  · rintro (rfl | ⟨_, hchain⟩)
    · exact Or.inl rfl
    · exact Or.inr hchain
  · rintro (rfl | ⟨chain, hchain⟩)
    · exact Or.inl rfl
    · -- a version with a chain has been tried, or is the server version itself
      rcases isChain_start hchain with rfl | hpair
      · exact Or.inl rfl
      · exact Or.inr ⟨hpair, chain, hchain⟩

theorem getSupportedVersions_sorted (m : ProtocolManager) (server : Int) :
    (m.getSupportedVersions server).1.Pairwise (· < ·) :=
  (Finset.sortedLT_sort _).pairwise

/-- `get_supported_versions` fills the cache and leaves the registry alone. -/
theorem Coherent.getSupportedVersions_snd {m : ProtocolManager} (h : m.Coherent) (server : Int) :
    (m.getSupportedVersions server).2.Coherent ∧
      m.SameRegistry (m.getSupportedVersions server).2 := by
  obtain ⟨hcoh, hreg, _⟩ := h.collectSupported_spec server m.protocols.keys {server}
  exact ⟨hcoh, hreg⟩

/-! ### Runs with all three calls -/

/-- What a registry is asked for. -/
inductive Request where
  | register (p : Protocol)
  | getPath (server client : Int)
  | getSupportedVersions (server : Int)

/-- What it answers. -/
inductive Response where
  | done
  | path (chain : Option (List Protocol))
  | versions (supported : List Int)

def serve (m : ProtocolManager) : Request → ProtocolManager × Response
  | .register p => (m.register p, .done)
  | .getPath server client => ((m.getPath server client).2, .path (m.getPath server client).1)
  | .getSupportedVersions server =>
    ((m.getSupportedVersions server).2, .versions (m.getSupportedVersions server).1)

/-- The requests other than `get_supported_versions`. -/
def Request.isOther : Request → Bool
  | .getSupportedVersions _ => false
  | _ => true

theorem Coherent.serve {m : ProtocolManager} (h : m.Coherent) (r : Request) :
    (m.serve r).1.Coherent := by
  cases r with
  | register p => exact h.register p
  | getPath server client => exact h.getPath_snd server client
  | getSupportedVersions server => exact (h.getSupportedVersions_snd server).1

theorem coherent_served (requests : List Request) :
    (EventSystem.run serve {} requests).1.Coherent :=
  EventSystem.invariant serve (fun _ r h => h.serve r) (coherent_empty []) requests

/-- Two registries that only differ in what they have cached. -/
def Alike (m m' : ProtocolManager) : Prop := m.Coherent ∧ m'.Coherent ∧ m.SameRegistry m'

theorem Alike.serve {m m' : ProtocolManager} (h : m.Alike m') {r : Request}
    (hr : r.isOther = true) :
    (m.serve r).1.Alike (m'.serve r).1 ∧ (m.serve r).2 = (m'.serve r).2 := by
  obtain ⟨hm, hm', hsame⟩ := h
  cases r with
  | register p =>
    have hreg : (m.register p).SameRegistry (m'.register p) := by
      rw [SameRegistry, register, register, hsame.1, hsame.2]
      exact ⟨rfl, rfl⟩
    exact ⟨⟨hm.register p, hm'.register p, hreg⟩, rfl⟩
  | getPath server client =>
    have hs := getPath_snd_protocols m server client
    have hs' := getPath_snd_protocols m' server client
    have hreg : (m.getPath server client).2.SameRegistry (m'.getPath server client).2 :=
      ⟨(hs.1.trans hsame.1).trans hs'.1.symm, (hs.2.trans hsame.2).trans hs'.2.symm⟩
    exact ⟨⟨hm.getPath_snd server client, hm'.getPath_snd server client, hreg⟩,
      congrArg Response.path (hm.getPath_congr hm' hsame server client)⟩
  | getSupportedVersions server => exact absurd hr (by simp [Request.isOther])

theorem Alike.getSupportedVersions {m m' : ProtocolManager} (h : m.Alike m') (server : Int) :
    (m.getSupportedVersions server).2.Alike m' := by
  obtain ⟨hm, hm', hsame⟩ := h
  obtain ⟨hcoh, hreg⟩ := hm.getSupportedVersions_snd server
  exact ⟨hcoh, hm', ⟨hreg.1.symm.trans hsame.1, hreg.2.symm.trans hsame.2⟩⟩

/-- **The supported versions are the reachable ones**: after any requests, the answer is strictly
ascending and holds the server version and the versions a chain leads from.  Asking for it changes
no answer to any other request: the answers to these, in the run and afterwards, are those of the
run without it. -/
theorem supportedVersions_correct (requests : List Request) (server : Int) :
    let m := (EventSystem.run serve {} requests).1
    let quiet := EventSystem.run serve {} (requests.filter Request.isOther)
    (m.getSupportedVersions server).1.Pairwise (· < ·) ∧
      (∀ c, c ∈ (m.getSupportedVersions server).1 ↔
        c = server ∨ ∃ chain, m.IsChain server c chain) ∧
      (EventSystem.run serve {} requests).2.filter (fun a => a.1.isOther) = quiet.2 ∧
      ∀ s c, (m.getPath s c).1 = (quiet.1.getPath s c).1 := by
  intro m quiet
  have hcoh : m.Coherent := coherent_served requests
  have hstart : Alike {} {} := ⟨coherent_empty [], coherent_empty [], rfl, rfl⟩
  -- the run and the one without the requests for versions differ in their caches only
  have hrun : m.Alike quiet.1 ∧ _ := EventSystem.run_filter serve Request.isOther
    (R := Alike) (fun s t r h hr => h.serve hr) (fun s t r h hr => by
      cases r with
      | register p => exact absurd hr (by simp [Request.isOther])
      | getPath server client => exact absurd hr (by simp [Request.isOther])
      | getSupportedVersions server => exact h.getSupportedVersions server) hstart requests
  obtain ⟨⟨hm, hq, hsame⟩, hanswers⟩ := hrun
  exact ⟨getSupportedVersions_sorted m server, hcoh.mem_getSupportedVersions server, hanswers,
    hm.getPath_congr hq hsame⟩

end ProtocolManager

end Endweave
