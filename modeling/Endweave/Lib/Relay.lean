import Mathlib.Order.Basic

/-!
# Data relayed through versions

A `Format` says how each version encodes the same data.  A relay hands an encoding through a list of
links, each of which leads from one version to another.  If every link carries the format, so does
the relay, on the way up (`Format.relay_up`) as well as on the way down (`Format.relay_down`).

What a version has no field for is at its default after it, on either way.  So the data are to be
ones that the first version can express and that the links keep: on the way up that is a matter of
the fields that come with a later version, on the way down of those that have gone with an earlier
one.
-/

namespace Wire

variable {V D B L : Type}

/-- How each version encodes some data. -/
structure Format (V D B : Type) [LE V] where
  /-- The encoding; none where the data do not get to a version. -/
  encode : V → D → Option B
  Canonical : D → Prop
  /-- The first version that the data can come from on the way up. -/
  since : D → V
  /-- The last version that they can come from on the way down. -/
  upTo : D → V
  has_between : ∀ {u v w d}, u ≤ v → v ≤ w → (encode u d).isSome → (encode w d).isSome →
    (encode v d).isSome

/-- Versions in a list of links: the first one leads from `u`, each one to where the next one leads
from, and the last one to `v`. -/
def LinkPath (ends : L → V × V) : V → V → List L → Prop
  | u, v, [] => u = v
  | u, v, l :: links => (ends l).1 = u ∧ LinkPath ends (ends l).2 v links

instance LinkPath.decidable [DecidableEq V] (ends : L → V × V) :
    (u v : V) → (links : List L) → Decidable (LinkPath ends u v links)
  | u, v, [] => inferInstanceAs (Decidable (u = v))
  | u, v, l :: links =>
    have := LinkPath.decidable ends (ends l).2 v links
    inferInstanceAs (Decidable ((ends l).1 = u ∧ LinkPath ends (ends l).2 v links))

/-- Hand an encoding through the links, until one of them stops it. -/
def relay (run : L → B → Option B) : List L → B → Option B
  | [], b => some b
  | l :: links, b => (run l b).bind (relay run links)

theorem LinkPath.map {K : Type} {ends : L → V × V} {f : K → L} {u v : V} {links : List K} :
    LinkPath ends u v (links.map f) ↔ LinkPath (fun k => ends (f k)) u v links := by
  induction links generalizing u with
  | nil => exact Iff.rfl
  | cons k links ih => exact and_congr_right fun _ => ih

/-- **Links that keep a property** of what they hand on, by version, make a relay that does. -/
theorem relay_keeps {run : L → B → Option B} {ends : L → V × V} {u v : V} {links : List L}
    {P : V → B → Prop} {b : B} (hpath : LinkPath ends u v links)
    (hkeeps : ∀ l ∈ links, ∀ b, P (ends l).1 b → ∃ b', run l b = some b' ∧ P (ends l).2 b')
    (hb : P u b) : ∃ b', relay run links b = some b' ∧ P v b' := by
  induction links generalizing u b with
  | nil => exact ⟨b, rfl, hpath ▸ hb⟩
  | cons l links ih =>
    obtain ⟨rfl, hrest⟩ := hpath
    obtain ⟨b', hrun, hb'⟩ := hkeeps l (List.mem_cons_self ..) b hb
    rw [relay, hrun]
    exact ih hrest (fun k hk => hkeeps k (List.mem_cons_of_mem _ hk)) hb'

section Order

variable [Preorder V] {ends : L → V × V} {u v : V} {links : List L}

/-- A path whose links all lead up leads up. -/
theorem LinkPath.le_up (hpath : LinkPath ends u v links)
    (hup : ∀ l ∈ links, (ends l).1 ≤ (ends l).2) : u ≤ v := by
  induction links generalizing u with
  | nil => exact le_of_eq hpath
  | cons l links ih =>
    obtain ⟨rfl, hrest⟩ := hpath
    exact (hup l (List.mem_cons_self ..)).trans
      (ih hrest fun k hk => hup k (List.mem_cons_of_mem _ hk))

theorem LinkPath.le_down (hpath : LinkPath ends u v links)
    (hdown : ∀ l ∈ links, (ends l).2 ≤ (ends l).1) : v ≤ u := by
  induction links generalizing u with
  | nil => exact le_of_eq hpath.symm
  | cons l links ih =>
    obtain ⟨rfl, hrest⟩ := hpath
    exact (ih hrest fun k hk => hdown k (List.mem_cons_of_mem _ hk)).trans
      (hdown l (List.mem_cons_self ..))

/-- The links of a path that leads up do not lead beyond its end. -/
theorem LinkPath.snd_le_of_up (hpath : LinkPath ends u v links)
    (hup : ∀ l ∈ links, (ends l).1 ≤ (ends l).2) : ∀ l ∈ links, (ends l).2 ≤ v := by
  induction links generalizing u with
  | nil => exact List.forall_mem_nil _
  | cons l links ih =>
    obtain ⟨rfl, hrest⟩ := hpath
    have hup' := fun k hk => hup k (List.mem_cons_of_mem _ hk)
    exact List.forall_mem_cons.mpr ⟨hrest.le_up hup', ih hrest hup'⟩

/-- The links of a path that leads down do not come from beyond its start. -/
theorem LinkPath.fst_le_of_down (hpath : LinkPath ends u v links)
    (hdown : ∀ l ∈ links, (ends l).2 ≤ (ends l).1) : ∀ l ∈ links, (ends l).1 ≤ u := by
  induction links generalizing u with
  | nil => exact List.forall_mem_nil _
  | cons l links ih =>
    obtain ⟨rfl, hrest⟩ := hpath
    have hl := hdown l (List.mem_cons_self ..)
    have hrest' := ih hrest fun k hk => hdown k (List.mem_cons_of_mem _ hk)
    exact List.forall_mem_cons.mpr ⟨le_rfl, fun k hk => (hrest' k hk).trans hl⟩

end Order

namespace Format

section Definitions

variable [LE V] (F : Format V D B)

/-- The data can come from the version. -/
def Expresses (v : V) (d : D) : Prop := F.since d ≤ v ∧ v ≤ F.upTo d

/-- `run` leads from the encodings of `u` to those of `v`. -/
def Carries (u v : V) (run : B → Option B) : Prop :=
  ∀ {d b}, F.Canonical d → (u ≤ v → F.since d ≤ u) → (v ≤ u → u ≤ F.upTo d) →
    F.encode u d = some b → run b = F.encode v d

end Definitions

variable [Preorder V] {F : Format V D B} {run : L → B → Option B} {ends : L → V × V} {u v : V}
  {links : List L} {d : D} {b : B}

/-- What is gone in between has not come back at the end. -/
theorem encode_eq_none {w : V} (hbetween : u ≤ v ∧ v ≤ w ∨ w ≤ v ∧ v ≤ u)
    (hb : F.encode u d = some b) (hnone : F.encode v d = none) : F.encode w d = none := by
  by_contra hw
  have hu : (F.encode u d).isSome := by rw [hb]; rfl
  have hv : ¬ (F.encode v d).isSome := by rw [hnone]; exact Bool.false_ne_true
  have hw : (F.encode w d).isSome := Option.isSome_iff_ne_none.mpr hw
  rcases hbetween with ⟨huv, hvw⟩ | ⟨hwv, hvu⟩
  · exact hv (F.has_between huv hvw hu hw)
  · exact hv (F.has_between hwv hvu hw hu)

/-- **The way up**: data arrive as the last version encodes them. -/
theorem relay_up (hpath : LinkPath ends u v links)
    (hcarries : ∀ l ∈ links, F.Carries (ends l).1 (ends l).2 (run l))
    (hup : ∀ l ∈ links, (ends l).1 < (ends l).2) (hd : F.Canonical d) (hsince : F.since d ≤ u)
    (hb : F.encode u d = some b) : relay run links b = F.encode v d := by
  induction links generalizing u b with
  | nil => exact hpath ▸ hb.symm
  | cons l links ih =>
    obtain ⟨rfl, hrest⟩ := hpath
    have hlt := hup l (List.mem_cons_self ..)
    have hstep : run l b = F.encode (ends l).2 d :=
      hcarries l (List.mem_cons_self ..) hd (fun _ => hsince) (fun h => absurd h (not_le_of_gt hlt))
        hb
    have hup' := fun k hk => hup k (List.mem_cons_of_mem _ hk)
    rw [relay, hstep]
    cases hb' : F.encode (ends l).2 d with
    | some b' =>
      exact ih hrest (fun k hk => hcarries k (List.mem_cons_of_mem _ hk)) hup'
        (hsince.trans hlt.le) hb'
    | none =>
      have hle := hrest.le_up fun k hk => (hup' k hk).le
      exact (encode_eq_none (Or.inl ⟨hlt.le, hle⟩) hb hb').symm

/-- **The way down**: data arrive as the last version encodes them. -/
theorem relay_down (hpath : LinkPath ends u v links)
    (hcarries : ∀ l ∈ links, F.Carries (ends l).1 (ends l).2 (run l))
    (hdown : ∀ l ∈ links, (ends l).2 < (ends l).1) (hd : F.Canonical d) (hupTo : u ≤ F.upTo d)
    (hb : F.encode u d = some b) : relay run links b = F.encode v d := by
  induction links generalizing u b with
  | nil => exact hpath ▸ hb.symm
  | cons l links ih =>
    obtain ⟨rfl, hrest⟩ := hpath
    have hlt := hdown l (List.mem_cons_self ..)
    have hstep : run l b = F.encode (ends l).2 d :=
      hcarries l (List.mem_cons_self ..) hd (fun h => absurd h (not_le_of_gt hlt)) (fun _ => hupTo)
        hb
    have hdown' := fun k hk => hdown k (List.mem_cons_of_mem _ hk)
    rw [relay, hstep]
    cases hb' : F.encode (ends l).2 d with
    | some b' =>
      exact ih hrest (fun k hk => hcarries k (List.mem_cons_of_mem _ hk)) hdown'
        (hlt.le.trans hupTo) hb'
    | none =>
      have hle := hrest.le_down fun k hk => (hdown' k hk).le
      exact (encode_eq_none (Or.inr ⟨hle, hlt.le⟩) hb hb').symm

end Format

end Wire
