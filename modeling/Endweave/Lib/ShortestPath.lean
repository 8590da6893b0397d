import Mathlib.Data.List.Basic
import Mathlib.Data.List.Nodup
import Mathlib.Data.List.Perm.Subperm
import Mathlib.Data.Set.Basic

/-!
# Breadth-first search for a shortest chain of edges

Edges are values of an arbitrary type `E` with end points `src, dst : E → V`; a set `S` of them is
a directed graph with parallel edges, loops and cycles.  `search` explores it from a queue of
vertices, each with the chain of edges that led to it, and stops at the first edge that ends in the
target.

`search_some` says that a returned chain is a walk to the target that visits no vertex twice and is
no longer than any walk to the target; `search_none` says that nothing is returned only when there
is no walk.  Both rest on one invariant of the loop, `Level d`: the queue holds shortest walks of
length `d` and `d + 1` in this order, every vertex within `d` edges has been visited, and a visited
vertex that left the queue has only visited successors.
-/

namespace ShortestPath

variable {V E : Type*}

/-- `es` is a walk in `S` from `a` to `b`: each edge starts where the one before it ends. -/
def Walk (S : Set E) (src dst : E → V) : V → List E → V → Prop
  | a, [], b => a = b
  | a, e :: es, b => e ∈ S ∧ src e = a ∧ Walk S src dst (dst e) es b

/-- The vertices of a walk that starts at `a`. -/
def vertices (dst : E → V) (a : V) (es : List E) : List V := a :: es.map dst

section Walk

variable {S : Set E} {src dst : E → V}

/-- A walk can be prolonged by an edge that starts at its end. -/
theorem Walk.concat {a b : V} {es : List E} (h : Walk S src dst a es b) {e : E} (he : e ∈ S)
    (hb : src e = b) : Walk S src dst a (es ++ [e]) (dst e) := by
  induction es generalizing a with
  | nil => exact ⟨he, hb.trans (Eq.symm h), rfl⟩
  | cons e' es ih => exact ⟨h.1, h.2.1, ih h.2.2⟩

/-- A walk of positive length is a shorter walk followed by one edge. -/
theorem Walk.of_concat {a b : V} {es : List E} {e : E} (h : Walk S src dst a (es ++ [e]) b) :
    Walk S src dst a es (src e) ∧ e ∈ S ∧ dst e = b := by
  induction es generalizing a with
  | nil => exact ⟨h.2.1.symm, h.1, h.2.2⟩
  | cons e' es ih =>
    obtain ⟨hw, he, hb⟩ := ih h.2.2
    exact ⟨⟨h.1, h.2.1, hw⟩, he, hb⟩

/-- Every edge of a walk is in the graph. -/
theorem Walk.mem {a b : V} {es : List E} (h : Walk S src dst a es b) : ∀ e ∈ es, e ∈ S := by
  induction es generalizing a with
  | nil => intro e he; exact absurd he List.not_mem_nil
  | cons e' es ih =>
    intro e he
    rcases List.mem_cons.mp he with rfl | he
    · exact h.1
    · exact ih h.2.2 e he

/-- A set of vertices that contains `a` and is closed under the edges contains every vertex that a
walk from `a` reaches. -/
theorem Walk.mem_of_closed {a b : V} {es : List E} (h : Walk S src dst a es b) {C : V → Prop}
    (hC : ∀ e ∈ S, C (src e) → C (dst e)) (ha : C a) : C b := by
  induction es generalizing a with
  | nil => exact h ▸ ha
  | cons e es ih => exact ih h.2.2 (hC e h.1 (h.2.1 ▸ ha))

/-- Prolonging a walk to a new vertex repeats no vertex. -/
theorem nodup_vertices_concat {a : V} {es : List E} {e : E} (h : (vertices dst a es).Nodup)
    (hnew : dst e ∉ vertices dst a es) : (vertices dst a (es ++ [e])).Nodup := by
  have hnd := List.nodup_append.mpr ⟨h, List.nodup_singleton (dst e), by
    rintro x hx y hy rfl
    exact hnew (List.mem_singleton.mp hy ▸ hx)⟩
  simpa [vertices] using hnd

end Walk

/-! ### The search -/

variable [DecidableEq V]

/-- Look at the edges that leave the end of `path`: stop at one that ends in `target`, mark and
queue the others whose end was not visited before. -/
def scan (dst : E → V) (target : V) (path : List E) :
    List E → List V → List (V × List E) → List E ⊕ (List V × List (V × List E))
  | [], visited, queue => .inr (visited, queue)
  | e :: es, visited, queue =>
    if dst e = target then .inl (path ++ [e])
    else if dst e ∈ visited then scan dst target path es visited queue
    else scan dst target path es (dst e :: visited) (queue ++ [(dst e, path ++ [e])])

/-- Breadth-first search: take the first vertex off the queue, scan its edges, go on. -/
def search (succ : V → List E) (dst : E → V) (target : V) :
    Nat → List V → List (V × List E) → Option (List E)
  | 0, _, _ => none
  | _ + 1, _, [] => none
  | fuel + 1, visited, (v, path) :: queue =>
    match scan dst target path (succ v) visited queue with
    | .inl found => some found
    | .inr (visited', queue') => search succ dst target fuel visited' queue'

/-! ### What a scan does -/

/-- A scan that stops returns `path` prolonged by an edge into the target. -/
theorem scan_inl {dst : E → V} {target : V} {path found : List E} {es : List E}
    {visited : List V} {queue : List (V × List E)}
    (h : scan dst target path es visited queue = .inl found) :
    ∃ e ∈ es, dst e = target ∧ found = path ++ [e] := by
  induction es generalizing visited queue with
  | nil => exact absurd h (by simp [scan])
  | cons e es ih =>
    unfold scan at h
    split_ifs at h with ht hv
    · exact ⟨e, List.mem_cons_self .., ht, (Sum.inl.inj h).symm⟩
    all_goals
      obtain ⟨e', he', ht', hf⟩ := ih h
      exact ⟨e', List.mem_cons_of_mem _ he', ht', hf⟩

/-- The edges a scan adds to the queue: those whose ends were new, each end once. -/
structure Fresh (dst : E → V) (path : List E) (es : List E) (visited : List V)
    (queue : List (V × List E)) (visited' : List V) (queue' : List (V × List E))
    (fresh : List E) : Prop where
  sub : ∀ e ∈ fresh, e ∈ es
  new : ∀ e ∈ fresh, dst e ∉ visited
  queue_eq : queue' = queue ++ fresh.map (fun e => (dst e, path ++ [e]))
  visited_iff : ∀ x, x ∈ visited' ↔ x ∈ visited ∨ ∃ e ∈ fresh, dst e = x
  visited_nodup : visited.Nodup → visited'.Nodup
  visited_length : visited'.length = visited.length + fresh.length

/-- A scan that goes through has met no edge into the target, has visited the ends of all the edges
and has queued the new ones. -/
theorem scan_inr {dst : E → V} {target : V} {path : List E} {es : List E} {visited : List V}
    {queue : List (V × List E)} {visited' : List V} {queue' : List (V × List E)}
    (h : scan dst target path es visited queue = .inr (visited', queue')) :
    (∀ e ∈ es, dst e ≠ target ∧ dst e ∈ visited') ∧
      ∃ fresh, Fresh dst path es visited queue visited' queue' fresh := by
  induction es generalizing visited queue with
  | nil =>
    simp only [scan, Sum.inr.injEq, Prod.mk.injEq] at h
    obtain ⟨rfl, rfl⟩ := h
    exact ⟨by simp, [], by simp, by simp, by simp, by simp, id, by simp⟩
  | cons e es ih =>
    unfold scan at h
    split_ifs at h with ht hv
    · obtain ⟨hes, fresh, hf⟩ := ih h
      refine ⟨?_, fresh, fun e' he' => List.mem_cons_of_mem _ (hf.sub e' he'), hf.new, hf.queue_eq,
        hf.visited_iff, hf.visited_nodup, hf.visited_length⟩
      intro e' he'
      rcases List.mem_cons.mp he' with rfl | he'
      · exact ⟨ht, (hf.visited_iff _).mpr (Or.inl hv)⟩
      · exact hes e' he'
    · obtain ⟨hes, fresh, hf⟩ := ih h
      refine ⟨?_, e :: fresh, ?_, ?_, ?_, ?_, ?_, ?_⟩
      · intro e' he'
        rcases List.mem_cons.mp he' with rfl | he'
        · exact ⟨ht, (hf.visited_iff _).mpr (Or.inl (List.mem_cons_self ..))⟩
        · exact hes e' he'
      · intro e' he'
        rcases List.mem_cons.mp he' with rfl | he'
        · exact List.mem_cons_self ..
        · exact List.mem_cons_of_mem _ (hf.sub e' he')
      · intro e' he'
        rcases List.mem_cons.mp he' with rfl | he'
        · exact hv
        · exact fun hmem => hf.new e' he' (List.mem_cons_of_mem _ hmem)
      · rw [hf.queue_eq, List.append_assoc, List.map_cons, List.singleton_append]
      · intro x
        rw [hf.visited_iff]
        simp only [List.mem_cons, exists_eq_or_imp]
        tauto
      · exact fun hnd => hf.visited_nodup (List.nodup_cons.mpr ⟨hv, hnd⟩)
      · rw [hf.visited_length]
        simp only [List.length_cons]
        omega

/-! ### The invariant of the search -/

variable {S : Set E} {src dst : E → V} {start target : V}

/-- A queued vertex with the walk that found it: a shortest walk, through visited vertices, none of
them twice. -/
structure Queued (S : Set E) (src dst : E → V) (start : V) (visited : List V) (v : V)
    (path : List E) : Prop where
  walk : Walk S src dst start path v
  nodup : (vertices dst start path).Nodup
  visited : ∀ x ∈ vertices dst start path, x ∈ visited
  shortest : ∀ es, Walk S src dst start es v → path.length ≤ es.length

/-- The invariant at level `d`. -/
structure Level (S : Set E) (src dst : E → V) (start target : V) (d : Nat) (visited : List V)
    (queue : List (V × List E)) : Prop where
  queued : ∀ p ∈ queue, Queued S src dst start visited p.1 p.2
  lower : ∀ p ∈ queue, d ≤ p.2.length
  upper : ∀ p ∈ queue, p.2.length ≤ d + 1
  sorted : queue.Pairwise (fun p q => p.2.length ≤ q.2.length)
  near : ∀ es x, Walk S src dst start es x → es.length ≤ d → x ∈ visited
  closed : ∀ v ∈ visited, (∃ path, (v, path) ∈ queue) ∨
    ∀ e ∈ S, src e = v → dst e ≠ target ∧ dst e ∈ visited
  target : target ∉ visited

omit [DecidableEq V] in
/-- The search starts at level `0`. -/
theorem level_start (h : start ≠ target) :
    Level S src dst start target 0 [start] [(start, [])] where
  queued := by
    intro p hp
    obtain rfl := List.mem_singleton.mp hp
    exact ⟨rfl, by simp [vertices], by simp [vertices], fun es _ => Nat.zero_le _⟩
  lower := fun p _ => Nat.zero_le _
  upper := by simp
  sorted := List.pairwise_singleton _ _
  near := by
    intro es x hw hes
    obtain rfl := List.eq_nil_of_length_eq_zero (Nat.le_zero.mp hes)
    exact List.mem_singleton.mpr (Eq.symm hw)
  closed := fun v hv =>
    Or.inl ⟨[], by rw [List.mem_singleton.mp hv]; exact List.mem_singleton_self _⟩
  target := fun hmem => h (List.mem_singleton.mp hmem).symm

/-- When only walks of length `d + 1` are left in the queue, the search has reached level
`d + 1`: the last edge of a walk of that length leaves a vertex that is no longer queued. -/
theorem Level.next {d : Nat} {visited : List V} {queue : List (V × List E)}
    (h : Level S src dst start target d visited queue)
    (hlen : ∀ p ∈ queue, p.2.length = d + 1) :
    Level S src dst start target (d + 1) visited queue where
  queued := h.queued
  lower p hp := (hlen p hp).ge
  upper p hp := by rw [hlen p hp]; omega
  sorted := h.sorted
  near es x hw hes := by
    rcases Nat.lt_or_ge es.length (d + 1) with hlt | hge
    · exact h.near es x hw (by omega)
    · -- a walk of length `d + 1`: its last edge leaves a vertex of level `d`
      obtain ⟨init, e, rfl⟩ : ∃ init e, es = init ++ [e] := by
        have hne : es ≠ [] := by rintro rfl; simp at hge
        exact ⟨es.dropLast, es.getLast hne, (List.dropLast_append_getLast hne).symm⟩
      obtain ⟨hinit, he, rfl⟩ := hw.of_concat
      have hl : init.length = d := by
        simp only [List.length_append, List.length_cons, List.length_nil] at hes hge
        omega
      have hv := h.near init (src e) hinit hl.le
      rcases h.closed _ hv with ⟨path, hq⟩ | hcl
      · -- such a vertex is no longer in the queue
        have hs := (h.queued _ hq).shortest init hinit
        have hp := hlen _ hq
        simp only at hs hp
        omega
      · exact (hcl e he rfl).2
  closed := h.closed
  target := h.target

section Step

variable {succ : V → List E} (hsucc : ∀ v e, e ∈ succ v ↔ e ∈ S ∧ src e = v)
  {d : Nat} {visited : List V} {queue : List (V × List E)} {v : V} {path : List E}

include hsucc

/-- One turn of the loop keeps the invariant. -/
theorem Level.step (h : Level S src dst start target d visited ((v, path) :: queue))
    (hd : path.length = d) {visited' : List V} {queue' : List (V × List E)}
    (hscan : scan dst target path (succ v) visited queue = .inr (visited', queue')) :
    Level S src dst start target d visited' queue' := by
  obtain ⟨hes, fresh, hf⟩ := scan_inr hscan
  have hhead := h.queued _ (List.mem_cons_self ..)
  have hsub : ∀ x ∈ visited, x ∈ visited' := fun x hx => (hf.visited_iff x).mpr (Or.inl hx)
  have hfresh : ∀ e ∈ fresh, e ∈ S ∧ src e = v := fun e he => (hsucc v e).mp (hf.sub e he)
  -- an entry of the new queue is an old one, or `path` prolonged by a fresh edge
  have hmem : ∀ p ∈ queue', p ∈ queue ∨ ∃ e ∈ fresh, p = (dst e, path ++ [e]) := by
    intro p hp
    rw [hf.queue_eq, List.mem_append, List.mem_map] at hp
    exact hp.imp id (fun ⟨e, he, hp⟩ => ⟨e, he, hp.symm⟩)
  constructor
  case queued =>
    intro p hp
    rcases hmem p hp with hp | ⟨e, he, rfl⟩
    · have hq := h.queued p (List.mem_cons_of_mem _ hp)
      exact ⟨hq.walk, hq.nodup, fun x hx => hsub x (hq.visited x hx), hq.shortest⟩
    · obtain ⟨heS, hev⟩ := hfresh e he
      refine ⟨hhead.walk.concat heS hev, ?_, ?_, ?_⟩
      · exact nodup_vertices_concat hhead.nodup fun hx => hf.new e he (hhead.visited _ hx)
      · intro x hx
        rw [vertices, List.map_append, ← List.cons_append, List.mem_append] at hx
        rcases hx with hx | hx
        · exact hsub x (hhead.visited x hx)
        · exact (hf.visited_iff x).mpr (Or.inr ⟨e, he, (List.mem_singleton.mp hx).symm⟩)
      · -- a shorter walk would have been found at an earlier level
        intro es hw
        by_contra hlt
        simp only [List.length_append, List.length_cons, List.length_nil] at hlt
        exact hf.new e he (h.near es _ hw (by omega))
  case lower =>
    intro p hp
    rcases hmem p hp with hp | ⟨e, he, rfl⟩
    · exact h.lower p (List.mem_cons_of_mem _ hp)
    · simp only [List.length_append, List.length_cons, List.length_nil]
      omega
  case upper =>
    intro p hp
    rcases hmem p hp with hp | ⟨e, he, rfl⟩
    · exact h.upper p (List.mem_cons_of_mem _ hp)
    · simp only [List.length_append, List.length_cons, List.length_nil]
      omega
  case sorted =>
    rw [hf.queue_eq, List.pairwise_append]
    refine ⟨(List.pairwise_cons.mp h.sorted).2, ?_, ?_⟩
    · rw [List.pairwise_map]
      exact List.pairwise_of_forall (fun e e' => by simp)
    · intro p hp q hq
      obtain ⟨e, _, rfl⟩ := List.mem_map.mp hq
      have := h.upper p (List.mem_cons_of_mem _ hp)
      simp only [List.length_append, List.length_cons, List.length_nil]
      omega
  case near => exact fun es x hw hl => hsub x (h.near es x hw hl)
  case closed =>
    intro x hx
    rcases (hf.visited_iff x).mp hx with hx | ⟨e, he, rfl⟩
    · rcases h.closed x hx with ⟨p, hp⟩ | hcl
      · rcases List.mem_cons.mp hp with hp | hp
        · -- the vertex that was just taken off: all its edges have been scanned
          obtain ⟨rfl, rfl⟩ := Prod.mk.inj hp
          exact Or.inr fun e he hs => hes e ((hsucc _ e).mpr ⟨he, hs⟩)
        · exact Or.inl ⟨p, by rw [hf.queue_eq]; exact List.mem_append_left _ hp⟩
      · exact Or.inr fun e he hs => ⟨(hcl e he hs).1, hsub _ (hcl e he hs).2⟩
    · refine Or.inl ⟨path ++ [e], ?_⟩
      rw [hf.queue_eq]
      exact List.mem_append_right _ (List.mem_map_of_mem he)
  case target =>
    intro hx
    rcases (hf.visited_iff target).mp hx with hx | ⟨e, he, ht⟩
    · exact h.target hx
    · exact (hes e (hf.sub e he)).1 ht

/-- What the search promises about a chain it returns. -/
structure Shortest (S : Set E) (src dst : E → V) (start target : V) (found : List E) : Prop where
  walk : Walk S src dst start found target
  nonempty : found ≠ []
  nodup : (vertices dst start found).Nodup
  shortest : ∀ es, Walk S src dst start es target → found.length ≤ es.length

/-- A turn that stops returns a shortest walk. -/
theorem Level.found (h : Level S src dst start target d visited ((v, path) :: queue))
    (hd : path.length = d) {found : List E}
    (hscan : scan dst target path (succ v) visited queue = .inl found) :
    Shortest S src dst start target found := by
  obtain ⟨e, he, rfl, rfl⟩ := scan_inl hscan
  obtain ⟨heS, hev⟩ := (hsucc v e).mp he
  have hhead := h.queued _ (List.mem_cons_self ..)
  refine ⟨hhead.walk.concat heS hev, by simp, ?_, ?_⟩
  · exact nodup_vertices_concat hhead.nodup fun hx => h.target (hhead.visited _ hx)
  · intro es hw
    by_contra hlt
    simp only [List.length_append, List.length_cons, List.length_nil] at hlt
    exact h.target (h.near es _ hw (by omega))

omit [DecidableEq V] hsucc in
/-- With an empty queue the visited vertices are closed under the edges, so no walk reaches the
target. -/
theorem Level.exhausted (h : Level S src dst start target d visited []) (es : List E) :
    ¬ Walk S src dst start es target := by
  intro hw
  refine h.target (hw.mem_of_closed (C := (· ∈ visited)) ?_ (h.near [] start rfl (Nat.zero_le _)))
  intro e he hv
  rcases h.closed _ hv with ⟨p, hp⟩ | hcl
  · exact absurd hp List.not_mem_nil
  · exact (hcl e he rfl).2

omit hsucc in
/-- The head of the queue can be taken to have length `d`. -/
theorem Level.head (h : Level S src dst start target d visited ((v, path) :: queue)) :
    Level S src dst start target path.length visited ((v, path) :: queue) := by
  rcases Nat.lt_or_ge path.length (d + 1) with hlt | hge
  · have := h.lower _ (List.mem_cons_self ..)
    obtain rfl : path.length = d := by simp only at this; omega
    exact h
  · have hup := h.upper _ (List.mem_cons_self ..)
    simp only at hup
    have hd : path.length = d + 1 := by omega
    rw [hd]
    refine h.next fun p hp => ?_
    rcases List.mem_cons.mp hp with rfl | hp
    · exact hd
    · have h1 := (List.pairwise_cons.mp h.sorted).1 p hp
      have h2 := h.upper p (List.mem_cons_of_mem _ hp)
      simp only at h1
      omega

/-- The invariant and enough fuel decide the result of the search.  The fuel suffices because every
vertex that enters the queue is visited for the first time: fuel and visited vertices together
never fall below the size of the graph plus the length of the queue. -/
theorem search_spec (U : List V) (hU : ∀ e ∈ S, dst e ∈ U) :
    ∀ (fuel : Nat) (d : Nat) (visited : List V) (queue : List (V × List E)),
      Level S src dst start target d visited queue → visited.Nodup → (∀ x ∈ visited, x ∈ U) →
      U.length + queue.length ≤ fuel + visited.length →
      (∀ found, search succ dst target fuel visited queue = some found →
        Shortest S src dst start target found) ∧
      (search succ dst target fuel visited queue = none →
        ∀ es, ¬ Walk S src dst start es target) := by
  intro fuel
  induction fuel with
  | zero =>
    intro d visited queue h hnd hsub hfuel
    have hle := (hnd.subperm hsub).length_le
    obtain rfl : queue = [] := List.eq_nil_of_length_eq_zero (by omega)
    exact ⟨fun found hf => absurd hf (by simp [search]), fun _ => h.exhausted⟩
  | succ fuel ih =>
    intro d visited queue h hnd hsub hfuel
    match queue with
    | [] => exact ⟨fun found hf => absurd hf (by simp [search]), fun _ => h.exhausted⟩
    | (v, path) :: queue =>
      have hl := h.head
      unfold search
      cases hscan : scan dst target path (succ v) visited queue with
      | inl found' =>
        refine ⟨fun found hf => ?_, fun hf => absurd hf (by simp)⟩
        obtain rfl := Option.some.inj hf
        exact hl.found hsucc rfl hscan
      | inr next =>
        obtain ⟨visited', queue'⟩ := next
        obtain ⟨hes, fresh, hf⟩ := scan_inr hscan
        refine ih path.length visited' queue' (hl.step hsucc rfl hscan) (hf.visited_nodup hnd) ?_ ?_
        · intro x hx
          rcases (hf.visited_iff x).mp hx with hx | ⟨e, he, rfl⟩
          · exact hsub x hx
          · exact hU e ((hsucc v e).mp (hf.sub e he)).1
        · rw [hf.visited_length, hf.queue_eq, List.length_append, List.length_map]
          simp only [List.length_cons] at hfuel
          omega

/-- **Soundness and minimality**: a returned chain is a shortest walk, without repetitions. -/
theorem search_some (U : List V) (hU : ∀ e ∈ S, dst e ∈ U) (hne : start ≠ target) {fuel : Nat}
    (hfuel : U.length < fuel) {found : List E}
    (h : search succ dst target fuel [start] [(start, [])] = some found) :
    Shortest S src dst start target found := by
  refine (search_spec hsucc (start :: U) (fun e he => List.mem_cons_of_mem _ (hU e he)) fuel 0
    [start] [(start, [])] (level_start hne) (List.nodup_singleton _) ?_ ?_).1 found h
  · intro x hx
    rw [List.mem_singleton.mp hx]
    exact List.mem_cons_self ..
  · simp only [List.length_cons, List.length_nil]
    omega

/-- **Completeness**: nothing is returned only when no walk leads to the target. -/
theorem search_none (U : List V) (hU : ∀ e ∈ S, dst e ∈ U) (hne : start ≠ target) {fuel : Nat}
    (hfuel : U.length < fuel)
    (h : search succ dst target fuel [start] [(start, [])] = none) (es : List E) :
    ¬ Walk S src dst start es target := by
  refine (search_spec hsucc (start :: U) (fun e he => List.mem_cons_of_mem _ (hU e he)) fuel 0
    [start] [(start, [])] (level_start hne) (List.nodup_singleton _) ?_ ?_).2 h es
  · intro x hx
    rw [List.mem_singleton.mp hx]
    exact List.mem_cons_self ..
  · simp only [List.length_cons, List.length_nil]
    omega

end Step

end ShortestPath
