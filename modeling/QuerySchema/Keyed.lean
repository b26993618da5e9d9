/-!
Maps that keep the order in which their keys arrived.

Every generated schema is a JSON object whose members stand in a fixed order, so the order belongs
to the map and not to the way it is printed. A key that is new goes to the end; writing a key that
is present replaces its value where it stands.

What is stated here:
  1. `keys_put`: writing a key appends it when it is new and moves nothing when it is present.
  2. `get?_put_self`, `get?_put_of_ne`: the value written is found again, other values stay.
  3. `get?_eq_some_iff`, `get?_perm`: where no key stands twice, a value is found under its key
     wherever the entry stands.
-/

namespace QuerySchema

/-- An insertion-ordered map: its entries, first written first. -/
abbrev Keyed (κ α : Type) := List (κ × α)

namespace Keyed

variable {κ σ α β : Type}

/-- The keys, in the order in which they were first written. -/
def keys (m : Keyed κ α) : List κ := m.map Prod.fst

/-- The value under a key. -/
def get? [DecidableEq κ] (m : Keyed κ α) (key : κ) : Option α :=
  match m with
  | [] => none
  | (k, v) :: rest => if k = key then some v else get? rest key

/-- Whether a key is present. -/
def contains [DecidableEq κ] (m : Keyed κ α) (key : κ) : Bool := (m.get? key).isSome

/-- Writes a key: in its old place when it is present, at the end when it is new. -/
def put [DecidableEq κ] (m : Keyed κ α) (key : κ) (value : α) : Keyed κ α :=
  match m with
  | [] => [(key, value)]
  | (k, v) :: rest => if k = key then (key, value) :: rest else (k, v) :: put rest key value

/-- The entries whose values pass a test, with their values changed. -/
def select (q : α → Bool) (f : α → β) (m : Keyed κ α) : Keyed κ β :=
  (m.filter fun p => q p.2).map fun p => (p.1, f p.2)

/-- The map with each value changed. -/
def mapValues (f : α → β) (m : Keyed κ α) : Keyed κ β := m.map fun p => (p.1, f p.2)

/-- Writes each pair of a list in turn. -/
def ofPairs [DecidableEq κ] (pairs : List (κ × α)) : Keyed κ α :=
  pairs.foldl (fun m p => put m p.1 p.2) []

/-- The same map under other keys. -/
def rename (f : κ → σ) (m : Keyed κ α) : Keyed σ α := m.map fun p => (f p.1, p.2)

@[simp] theorem keys_nil : keys ([] : Keyed κ α) = [] := rfl

@[simp] theorem keys_cons (k : κ) (v : α) (m : Keyed κ α) :
    keys ((k, v) :: m) = k :: keys m := rfl

theorem contains_iff_mem_keys [DecidableEq κ] (m : Keyed κ α) (key : κ) :
    m.contains key = true ↔ key ∈ m.keys := by
  induction m with
  | nil => simp [contains, get?]
  | cons p rest ih =>
    obtain ⟨k, v⟩ := p
    by_cases h : k = key
    · simp [contains, get?, h]
    · have h' : key ≠ k := fun e => h e.symm
      simp only [contains, get?, h, if_false, keys_cons, List.mem_cons, h', false_or]
      exact ih

/-- A new key goes to the end; a present key moves nothing. -/
theorem keys_put [DecidableEq κ] (m : Keyed κ α) (key : κ) (value : α) :
    (m.put key value).keys = if key ∈ m.keys then m.keys else m.keys ++ [key] := by
  induction m with
  | nil => simp [put]
  | cons p rest ih =>
    obtain ⟨k, v⟩ := p
    by_cases h : k = key
    · simp [put, h]
    · have h' : key ≠ k := fun e => h e.symm
      simp only [put, h, if_false, keys_cons, ih, List.mem_cons, h', false_or]
      split <;> simp

/-- The value written is the value found. -/
theorem get?_put_self [DecidableEq κ] (m : Keyed κ α) (key : κ) (value : α) :
    (m.put key value).get? key = some value := by
  induction m with
  | nil => simp [put, get?]
  | cons p rest ih =>
    obtain ⟨k, v⟩ := p
    by_cases h : k = key
    · simp [put, get?, h]
    · simp [put, get?, h, ih]

/-- Writing one key leaves the values of the others alone. -/
theorem get?_put_of_ne [DecidableEq κ] (m : Keyed κ α) {key other : κ} (value : α) (h : other ≠ key) :
    (m.put key value).get? other = m.get? other := by
  have h' : key ≠ other := fun e => h e.symm
  induction m with
  | nil => simp [put, get?, h']
  | cons p rest ih =>
    obtain ⟨k, v⟩ := p
    by_cases hk : k = key
    · subst hk; simp [put, get?, h']
    · simp only [put, hk, if_false, get?, ih]

theorem mem_of_get? [DecidableEq κ] {m : Keyed κ α} {key : κ} {value : α}
    (h : m.get? key = some value) : (key, value) ∈ m := by
  induction m with
  | nil => cases h
  | cons p rest ih =>
    obtain ⟨k, v⟩ := p
    by_cases hk : k = key
    · simp only [get?, hk, if_true, Option.some.injEq] at h
      rw [hk, h]; exact List.mem_cons_self
    · simp only [get?, hk, if_false] at h
      exact List.mem_cons_of_mem _ (ih h)

theorem get?_eq_none_iff [DecidableEq κ] {m : Keyed κ α} {key : κ} :
    m.get? key = none ↔ key ∉ m.keys := by
  rw [← contains_iff_mem_keys, contains, Option.not_isSome_iff_eq_none]

theorem mem_keys_of_mem {m : Keyed κ α} {key : κ} {value : α} (h : (key, value) ∈ m) :
    key ∈ m.keys := List.mem_map.mpr ⟨(key, value), h, rfl⟩

/-! ## Maps in which no key stands twice -/

/-- With each key once, what stands in the map is what is found. -/
theorem get?_eq_some_iff [DecidableEq κ] {m : Keyed κ α} (hm : m.keys.Nodup) {key : κ}
    {value : α} : m.get? key = some value ↔ (key, value) ∈ m := by
  refine ⟨mem_of_get?, fun h => ?_⟩
  induction m with
  | nil => cases h
  | cons p rest ih =>
    obtain ⟨k, v⟩ := p
    rw [keys_cons, List.nodup_cons] at hm
    rcases List.mem_cons.mp h with he | hr
    · cases he; simp [get?]
    · have hk : k ≠ key := fun e => hm.1 (e ▸ mem_keys_of_mem hr)
      simp only [get?, hk, if_false]
      exact ih hm.2 hr

/-- With each key once, which value stands under a key does not depend on the order of the
entries. -/
theorem get?_perm [DecidableEq κ] {m n : Keyed κ α} (hm : m.keys.Nodup) (h : m.Perm n) (key : κ) :
    m.get? key = n.get? key := by
  have hn : n.keys.Nodup := (h.map Prod.fst).nodup_iff.mp hm
  refine Option.ext fun value => ?_
  rw [get?_eq_some_iff hm, get?_eq_some_iff hn, h.mem_iff]

theorem mem_keys_put [DecidableEq κ] (m : Keyed κ α) (key other : κ) (value : α) :
    other ∈ (m.put key value).keys ↔ other = key ∨ other ∈ m.keys := by
  rw [keys_put]
  split
  · exact ⟨.inr, fun h => h.elim (fun e => e ▸ ‹_›) id⟩
  · rw [List.mem_append, List.mem_singleton, or_comm]

theorem nodup_keys_nil : (keys ([] : Keyed κ α)).Nodup := List.nodup_nil

theorem nodup_keys_put [DecidableEq κ] {m : Keyed κ α} (hm : m.keys.Nodup) (key : κ) (value : α) :
    (m.put key value).keys.Nodup := by
  rw [keys_put]
  split
  · exact hm
  · next h =>
    rw [List.nodup_append]
    exact ⟨hm, List.nodup_cons.mpr ⟨List.not_mem_nil, List.nodup_nil⟩,
      fun a ha b hb e => h (List.mem_singleton.mp hb ▸ e ▸ ha)⟩

/-- After a write, what stands in the map is what was written and all under other keys. -/
theorem mem_put [DecidableEq κ] {m : Keyed κ α} (hm : m.keys.Nodup) {key other : κ}
    {value found : α} :
    (other, found) ∈ m.put key value ↔
      other = key ∧ found = value ∨ other ≠ key ∧ (other, found) ∈ m := by
  rw [← get?_eq_some_iff (nodup_keys_put hm key value)]
  by_cases h : other = key
  · subst h
    rw [get?_put_self]
    simp [eq_comm]
  · rw [get?_put_of_ne m value h, get?_eq_some_iff hm]
    simp [h]

theorem put_eq_append [DecidableEq κ] {m : Keyed κ α} {key : κ} (h : key ∉ m.keys) (value : α) :
    m.put key value = m ++ [(key, value)] := by
  induction m with
  | nil => rfl
  | cons p rest ih =>
    obtain ⟨k, v⟩ := p
    rw [keys_cons, List.mem_cons, not_or] at h
    have hk : k ≠ key := fun e => h.1 e.symm
    simp only [put, hk, if_false, ih h.2, List.cons_append]

/-! ## Maps written pair by pair -/

/-- Writing pairs under new and distinct keys appends them. -/
theorem foldl_put_eq_append [DecidableEq κ] (pairs : List (κ × α)) (m : Keyed κ α)
    (h : (m.keys ++ pairs.map Prod.fst).Nodup) :
    pairs.foldl (fun m p => m.put p.1 p.2) m = m ++ pairs := by
  induction pairs generalizing m with
  | nil => simp
  | cons p rest ih =>
    obtain ⟨k, v⟩ := p
    have hk : k ∉ m.keys := fun hm =>
      (List.nodup_append.mp h).2.2 k hm k (by simp) rfl
    rw [List.foldl_cons, put_eq_append hk, ih]
    · simp
    · simpa [keys] using h

/-- Pairs under distinct keys make up the map as they stand. -/
theorem ofPairs_eq_self [DecidableEq κ] {pairs : List (κ × α)}
    (h : (pairs.map Prod.fst).Nodup) : ofPairs pairs = pairs :=
  foldl_put_eq_append pairs [] h

theorem foldl_put_ne_nil [DecidableEq κ] (pairs : List (κ × α)) {m : Keyed κ α} (h : m ≠ []) :
    pairs.foldl (fun m p => m.put p.1 p.2) m ≠ [] := by
  induction pairs generalizing m with
  | nil => exact h
  | cons p rest ih =>
    refine ih fun he => ?_
    have hput : m.put p.1 p.2 = [] := he
    have hp : p.1 ∈ (m.put p.1 p.2).keys := (mem_keys_put m p.1 p.1 p.2).mpr (.inl rfl)
    rw [hput] at hp
    cases hp

theorem ofPairs_eq_nil [DecidableEq κ] {pairs : List (κ × α)} : ofPairs pairs = [] ↔ pairs = [] := by
  cases pairs with
  | nil => exact ⟨fun _ => rfl, fun _ => rfl⟩
  | cons p rest =>
    refine ⟨fun h => absurd h (foldl_put_ne_nil rest ?_), fun h => (nomatch h)⟩
    exact List.cons_ne_nil _ _

/-- A key that only ever gets one value has it in the end. -/
theorem get?_foldl_put [DecidableEq κ] {key : κ} {value : α} (pairs : List (κ × α))
    (m : Keyed κ α) (hv : ∀ p ∈ pairs, p.1 = key → p.2 = value)
    (h : m.get? key = some value ∨ (key, value) ∈ pairs) :
    (pairs.foldl (fun m p => m.put p.1 p.2) m).get? key = some value := by
  induction pairs generalizing m with
  | nil => exact h.resolve_right List.not_mem_nil
  | cons p rest ih =>
    obtain ⟨k, v⟩ := p
    refine ih _ (fun p hp => hv p (List.mem_cons_of_mem _ hp)) ?_
    -- a write under another key changes nothing, one under this key writes the value again
    by_cases hk : k = key
    · have hval := hv (k, v) List.mem_cons_self hk
      subst hk
      exact .inl (by rw [get?_put_self, ← hval])
    · rw [get?_put_of_ne m v (fun e => hk e.symm)]
      rcases h with h | h
      · exact .inl h
      · exact .inr ((List.mem_cons.mp h).resolve_left fun e => hk (Prod.mk.inj e).1.symm)

theorem of_mem_put [DecidableEq κ] {m : Keyed κ α} {key : κ} {value : α} {p : κ × α}
    (h : p ∈ m.put key value) : p = (key, value) ∨ p ∈ m := by
  induction m with
  | nil => exact .inl (List.mem_singleton.mp h)
  | cons first rest ih =>
    obtain ⟨k, v⟩ := first
    unfold put at h
    split at h
    · exact (List.mem_cons.mp h).imp id (List.mem_cons_of_mem _)
    · rcases List.mem_cons.mp h with h | h
      · exact .inr (h ▸ List.mem_cons_self)
      · exact (ih h).imp id (List.mem_cons_of_mem _)

theorem of_mem_foldl_put [DecidableEq κ] {pairs : List (κ × α)} {m : Keyed κ α} {p : κ × α}
    (h : p ∈ pairs.foldl (fun m p => m.put p.1 p.2) m) : p ∈ m ∨ p ∈ pairs := by
  induction pairs generalizing m with
  | nil => exact .inl h
  | cons first rest ih =>
    rcases ih h with hm | hr
    · rcases of_mem_put hm with rfl | hm
      · exact .inr List.mem_cons_self
      · exact .inl hm
    · exact .inr (List.mem_cons_of_mem _ hr)

/-- What is found and passes the test is found among what is selected. -/
theorem get?_select [DecidableEq κ] (q : α → Bool) (f : α → β) {m : Keyed κ α} {key : κ} {value : α}
    (h : m.get? key = some value) (hq : q value = true) : (select q f m).get? key = some (f value) := by
  induction m with
  | nil => cases h
  | cons first rest ih =>
    obtain ⟨k, v⟩ := first
    by_cases hk : k = key
    · simp only [get?, hk, if_true, Option.some.injEq] at h
      simp [select, h, hq, get?, hk]
    · simp only [get?, hk, if_false] at h
      have hrest := ih h
      unfold select at hrest
      cases hv : q v <;> simp [select, hv, get?, hk, hrest]

/-- Where no key stands twice, what is found among what is selected is what is found, if it passes
the test. -/
theorem get?_select_eq [DecidableEq κ] (q : α → Bool) (f : α → β) {m : Keyed κ α}
    (hm : m.keys.Nodup) (key : κ) : (select q f m).get? key = ((m.get? key).filter q).map f := by
  -- a key that is selected has a value that passes the test, and there is no other under this key
  have hselected (hmem : key ∈ (select q f m).keys) : ∃ value, m.get? key = some value ∧ q value := by
    obtain ⟨_, hfound, rfl⟩ := List.mem_map.mp hmem
    obtain ⟨p, hp, rfl⟩ := List.mem_map.mp hfound
    obtain ⟨hp, hpass⟩ := List.mem_filter.mp hp
    exact ⟨p.2, (get?_eq_some_iff hm).mpr hp, hpass⟩
  cases hkey : m.get? key with
  | none =>
    rw [Option.filter_none, Option.map_none, get?_eq_none_iff]
    intro hmem
    obtain ⟨value, hvalue, -⟩ := hselected hmem
    rw [hkey] at hvalue
    cases hvalue
  | some value =>
    by_cases hq : q value = true
    · rw [get?_select q f hkey hq, Option.filter_some_pos hq, Option.map_some]
    · rw [Option.filter_some_neg (eq_false_of_ne_true hq), Option.map_none, get?_eq_none_iff]
      intro hmem
      obtain ⟨other, hother, hpass⟩ := hselected hmem
      rw [hkey, Option.some.injEq] at hother
      exact hq (hother ▸ hpass)

/-- Selecting after a write is writing what is selected, when the value that is replaced, if any,
passes the test as the new one does. -/
theorem select_put [DecidableEq κ] (q : α → Bool) (f : α → β) {m : Keyed κ α} {key : κ} {value : α}
    (h : ∀ p ∈ m, p.1 = key → q p.2 = q value) :
    select q f (m.put key value) =
      if q value then (select q f m).put key (f value) else select q f m := by
  induction m with
  | nil => cases hq : q value <;> simp [put, select, hq]
  | cons first rest ih =>
    obtain ⟨k, v⟩ := first
    have hrest := ih fun p hp => h p (List.mem_cons_of_mem _ hp)
    by_cases hk : k = key
    · subst hk
      have hv : q v = q value := h (k, v) List.mem_cons_self rfl
      cases hq : q value <;> simp [put, select, hq, hv]
    · simp only [select] at hrest
      cases hv : q v <;> cases hq : q value <;> simp [put, hk, select, hv, hq, hrest]

/-- Selecting from pairs written in turn is writing the selected pairs in turn, when pairs under one
key pass the test together. -/
theorem select_foldl_put [DecidableEq κ] (q : α → Bool) (f : α → β) (pairs : List (κ × α))
    (m : Keyed κ α) (hm : ∀ a ∈ m, ∀ b ∈ pairs, a.1 = b.1 → q a.2 = q b.2)
    (hpairs : pairs.Pairwise fun a b => a.1 = b.1 → q a.2 = q b.2) :
    select q f (pairs.foldl (fun m p => m.put p.1 p.2) m) =
      (select q f pairs).foldl (fun m p => m.put p.1 p.2) (select q f m) := by
  induction pairs generalizing m with
  | nil => rfl
  | cons p rest ih =>
    obtain ⟨hp, hrest⟩ := List.pairwise_cons.mp hpairs
    rw [List.foldl_cons, ih (m.put p.1 p.2) ?_ hrest,
      select_put q f fun a ha he => hm a ha p List.mem_cons_self he]
    · cases hq : q p.2 <;> simp [select, hq]
    · intro a ha b hb he
      rcases of_mem_put ha with rfl | ha
      · exact hp b hb he
      · exact hm a ha b (List.mem_cons_of_mem _ hb) he

@[simp] theorem keys_mapValues (f : α → β) (m : Keyed κ α) : (mapValues f m).keys = m.keys := by
  rw [mapValues, keys, keys, List.map_map]
  rfl

theorem put_mapValues [DecidableEq κ] (f : α → β) (m : Keyed κ α) (key : κ) (value : α) :
    (mapValues f m).put key (f value) = mapValues f (m.put key value) := by
  induction m with
  | nil => rfl
  | cons p rest ih =>
    obtain ⟨k, v⟩ := p
    by_cases hk : k = key
    · simp [mapValues, put, hk]
    · rw [mapValues] at ih
      simp [mapValues, put, hk, ih]

theorem contains_mapValues [DecidableEq κ] (f : α → β) (m : Keyed κ α) (key : κ) :
    (mapValues f m).contains key = m.contains key := by
  rw [Bool.eq_iff_iff, contains_iff_mem_keys, contains_iff_mem_keys, keys_mapValues]

theorem mapValues_id (m : Keyed κ α) : mapValues (fun a => a) m = m := List.map_id' m

/-- What is selected from changed values is what is selected, changed. -/
theorem select_mapValues {q : α → Bool} {f : α → β} {g : α → α} {g' : β → β}
    (hq : ∀ a, q (g a) = q a) (hf : ∀ a, q a = true → f (g a) = g' (f a)) (m : Keyed κ α) :
    select q f (mapValues g m) = mapValues g' (select q f m) := by
  have hfilter : m.filter ((fun p => q p.2) ∘ fun p => (p.1, g p.2)) = m.filter fun p => q p.2 :=
    List.filter_congr fun p _ => hq p.2
  rw [select, mapValues, List.filter_map, List.map_map, hfilter, mapValues, select, List.map_map]
  refine List.map_congr_left fun p hp => ?_
  exact congrArg (Prod.mk p.1) (hf p.2 (List.mem_filter.mp hp).2)

end Keyed

end QuerySchema
