import Mathlib.Data.List.Basic
import Mathlib.Data.List.Nodup

/-!
# Dictionaries in insertion order

An `OrderedDict κ ν` is a list of key–value pairs.  `insert` replaces the value of a key that is
present where it stands and appends a new key at the end, so that iteration follows the order of
first insertion; `erase` drops a key.  `get?_insert` and `get?_erase` are the two laws every lookup
goes through.
-/

/-- A dictionary whose iteration order is the order of first insertion. -/
abbrev OrderedDict (κ ν : Type*) := List (κ × ν)

namespace OrderedDict

variable {κ ν : Type*} [DecidableEq κ]

/-- The value stored under a key. -/
def get? (d : OrderedDict κ ν) (k : κ) : Option ν :=
  match d with
  | [] => none
  | (k', v) :: d => if k' = k then some v else get? d k

/-- Store a value: in place when the key is there, at the end otherwise. -/
def insert (d : OrderedDict κ ν) (k : κ) (v : ν) : OrderedDict κ ν :=
  match d with
  | [] => [(k, v)]
  | (k', v') :: d => if k' = k then (k', v) :: d else (k', v') :: insert d k v

/-- Forget a key. -/
def erase (d : OrderedDict κ ν) (k : κ) : OrderedDict κ ν :=
  match d with
  | [] => []
  | (k', v) :: d => if k' = k then erase d k else (k', v) :: erase d k

/-- The keys, in insertion order. -/
def keys (d : OrderedDict κ ν) : List κ := d.map Prod.fst

/-- The values, in insertion order of their keys. -/
def values (d : OrderedDict κ ν) : List ν := d.map Prod.snd

@[simp] theorem get?_nil (k : κ) : get? ([] : OrderedDict κ ν) k = none := rfl

theorem get?_cons (k' : κ) (v : ν) (d : OrderedDict κ ν) (k : κ) :
    get? ((k', v) :: d) k = if k' = k then some v else get? d k := rfl

/-- What `insert` changes: the lookup of its own key, and nothing else. -/
theorem get?_insert (d : OrderedDict κ ν) (k k' : κ) (v : ν) :
    get? (insert d k v) k' = if k = k' then some v else get? d k' := by
  induction d with
  | nil => rfl
  | cons p d ih =>
    obtain ⟨k₀, v₀⟩ := p
    unfold insert
    by_cases hk : k₀ = k
    · rw [if_pos hk, get?_cons, get?_cons, hk]
      split_ifs <;> rfl
    · rw [if_neg hk, get?_cons, get?_cons, ih]
      by_cases hk' : k₀ = k'
      · rw [if_pos hk', if_pos hk', if_neg (by rw [← hk']; exact Ne.symm hk)]
      · rw [if_neg hk', if_neg hk']

/-- What `erase` changes: the lookup of its own key, and nothing else. -/
theorem get?_erase (d : OrderedDict κ ν) (k k' : κ) :
    get? (erase d k) k' = if k = k' then none else get? d k' := by
  induction d with
  | nil => simp [erase]
  | cons p d ih =>
    obtain ⟨k₀, v₀⟩ := p
    unfold erase
    by_cases hk : k₀ = k
    · -- the entry goes, and so do later ones of the same key
      rw [if_pos hk, ih, get?_cons, hk]
      split_ifs <;> rfl
    · rw [if_neg hk, get?_cons, get?_cons, ih]
      by_cases hk' : k₀ = k'
      · rw [if_pos hk', if_pos hk', if_neg (by rw [← hk']; exact Ne.symm hk)]
      · rw [if_neg hk', if_neg hk']

/-- A lookup that succeeds finds an entry. -/
theorem mem_of_get? {d : OrderedDict κ ν} {k : κ} {v : ν} (h : get? d k = some v) :
    (k, v) ∈ d := by
  induction d with
  | nil => exact absurd h (by simp)
  | cons p d ih =>
    obtain ⟨k₀, v₀⟩ := p
    rw [get?_cons] at h
    split_ifs at h with hk
    · rw [← Option.some.inj h, ← hk]
      exact List.mem_cons_self ..
    · exact List.mem_cons_of_mem _ (ih h)

/-- Every entry after an `insert` is the new one or an old one. -/
theorem mem_insert {d : OrderedDict κ ν} {k : κ} {v : ν} {p : κ × ν} (h : p ∈ insert d k v) :
    p = (k, v) ∨ p ∈ d := by
  induction d with
  | nil => exact Or.inl (List.mem_singleton.mp h)
  | cons q d ih =>
    obtain ⟨k₀, v₀⟩ := q
    unfold insert at h
    by_cases hk : k₀ = k
    · rw [if_pos hk, hk] at h
      exact (List.mem_cons.mp h).imp id (List.mem_cons_of_mem _)
    · rw [if_neg hk] at h
      rcases List.mem_cons.mp h with rfl | h
      · exact Or.inr (List.mem_cons_self ..)
      · exact (ih h).imp id (List.mem_cons_of_mem _)

/-- A new key goes to the end. -/
theorem insert_of_not_mem {d : OrderedDict κ ν} {k : κ} (h : k ∉ keys d) (v : ν) :
    insert d k v = d ++ [(k, v)] := by
  induction d with
  | nil => rfl
  | cons p d ih =>
    obtain ⟨k₀, v₀⟩ := p
    simp only [keys, List.map_cons, List.mem_cons, not_or] at h
    rw [insert, if_neg (Ne.symm h.1), ih h.2, List.cons_append]

/-! ### Distinct keys -/

theorem keys_insert_of_mem {d : OrderedDict κ ν} {k : κ} (h : k ∈ keys d) (v : ν) :
    keys (insert d k v) = keys d := by
  induction d with
  | nil => exact absurd h List.not_mem_nil
  | cons p d ih =>
    obtain ⟨k₀, v₀⟩ := p
    unfold insert
    by_cases hk : k₀ = k
    · rw [if_pos hk]
      rfl
    · rw [if_neg hk]
      have hmem : k ∈ keys d := (List.mem_cons.mp h).resolve_left (Ne.symm hk)
      exact congrArg (k₀ :: ·) (ih hmem)

/-- `insert` keeps the keys distinct. -/
theorem nodup_keys_insert {d : OrderedDict κ ν} (h : (keys d).Nodup) (k : κ) (v : ν) :
    (keys (insert d k v)).Nodup := by
  by_cases hk : k ∈ keys d
  · rw [keys_insert_of_mem hk]
    exact h
  · rw [insert_of_not_mem hk, keys, List.map_append]
    refine List.nodup_append.mpr ⟨h, List.nodup_singleton k, ?_⟩
    rintro a ha b hb rfl
    have hak : a = k := List.mem_singleton.mp hb
    exact hk (hak ▸ ha)

/-- With distinct keys every entry is found by its key. -/
theorem get?_of_mem {d : OrderedDict κ ν} (hd : (keys d).Nodup) {k : κ} {v : ν}
    (h : (k, v) ∈ d) : get? d k = some v := by
  induction d with
  | nil => exact absurd h List.not_mem_nil
  | cons p d ih =>
    obtain ⟨k₀, v₀⟩ := p
    rw [get?_cons]
    obtain ⟨hnot, hd'⟩ := List.nodup_cons.mp hd
    rcases List.mem_cons.mp h with heq | h
    · obtain ⟨rfl, rfl⟩ := Prod.mk.inj heq
      rw [if_pos rfl]
    · have hne : k₀ ≠ k := by
        rintro rfl
        exact hnot (List.mem_map.mpr ⟨(k₀, v), h, rfl⟩)
      rw [if_neg hne, ih hd' h]

/-! ### Dictionaries from items -/

/-- The dictionary of a list of items, a later item replacing the value of an earlier one. -/
def ofItems (items : List (κ × ν)) : OrderedDict κ ν :=
  items.foldl (fun d p => insert d p.1 p.2) []

theorem foldl_insert_of_nodup (d : OrderedDict κ ν) (items : List (κ × ν))
    (h : (keys (d ++ items)).Nodup) :
    items.foldl (fun d p => insert d p.1 p.2) d = d ++ items := by
  induction items generalizing d with
  | nil => rw [List.foldl_nil, List.append_nil]
  | cons p items ih =>
    have hassoc : d ++ p :: items = d ++ [p] ++ items := (List.append_cons ..)
    have hp : p.1 ∉ keys d := by
      intro hmem
      rw [keys, List.map_append, List.map_cons] at h
      exact (List.nodup_append.mp h).2.2 _ hmem _ (List.mem_cons_self ..) rfl
    rw [hassoc] at h
    rw [List.foldl_cons, insert_of_not_mem hp, ih _ h, ← hassoc]

/-- Items with distinct keys are the dictionary. -/
theorem ofItems_of_nodup {items : List (κ × ν)} (h : (keys items).Nodup) : ofItems items = items :=
  foldl_insert_of_nodup [] items h

theorem get?_isSome_iff (d : OrderedDict κ ν) (k : κ) : (get? d k).isSome ↔ k ∈ keys d := by
  induction d with
  | nil => simp [keys]
  | cons p d ih =>
    obtain ⟨k₀, v₀⟩ := p
    rw [get?_cons, keys, List.map_cons, List.mem_cons]
    split_ifs with hk
    · exact ⟨fun _ => Or.inl hk.symm, fun _ => rfl⟩
    · rw [ih]
      exact ⟨Or.inr, fun h => h.resolve_left (Ne.symm hk)⟩

/-! ### The inverse of a dictionary -/

section Inverse

variable [DecidableEq ν]

/-- Keys and values exchanged; of two keys with one value the later is kept. -/
def inverse (d : OrderedDict κ ν) : OrderedDict ν κ := ofItems (d.map Prod.swap)

omit [DecidableEq κ] in
theorem inverse_of_nodup {d : OrderedDict κ ν} (h : (values d).Nodup) :
    inverse d = d.map Prod.swap := by
  apply ofItems_of_nodup
  rw [keys, List.map_map]
  exact h

/-- With distinct values the inverse finds the key of a value. -/
theorem get?_inverse {d : OrderedDict κ ν} (h : (values d).Nodup) {k : κ} {v : ν}
    (hk : get? d k = some v) : get? (inverse d) v = some k := by
  rw [inverse_of_nodup h]
  apply get?_of_mem
  · rw [keys, List.map_map]
    exact h
  · exact List.mem_map.mpr ⟨(k, v), mem_of_get? hk, rfl⟩

omit [DecidableEq κ] in
theorem get?_inverse_of_not_mem {d : OrderedDict κ ν} (h : (values d).Nodup) {v : ν}
    (hv : v ∉ values d) : get? (inverse d) v = none := by
  rw [inverse_of_nodup h, Option.eq_none_iff_forall_ne_some]
  intro k hk
  obtain ⟨⟨k', v'⟩, hmem, heq⟩ := List.mem_map.mp (mem_of_get? hk)
  obtain ⟨rfl, rfl⟩ := Prod.mk.inj heq
  exact hv (List.mem_map.mpr ⟨_, hmem, rfl⟩)

end Inverse

/-! ### Memo tables -/

/-- Every stored value is the value of `f` at its key. -/
def Memoizes (d : OrderedDict κ ν) (f : κ → ν) : Prop := ∀ k v, get? d k = some v → v = f k

theorem Memoizes.nil (f : κ → ν) : Memoizes [] f := fun _ _ h => absurd h (by simp)

theorem Memoizes.insert {d : OrderedDict κ ν} {f : κ → ν} (h : Memoizes d f) (k : κ) :
    Memoizes (OrderedDict.insert d k (f k)) f := by
  intro k' v hv
  rw [get?_insert] at hv
  split_ifs at hv with hk
  · rw [← hk]
    exact (Option.some.inj hv).symm
  · exact h k' v hv

end OrderedDict
