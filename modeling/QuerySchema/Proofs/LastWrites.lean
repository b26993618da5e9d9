import QuerySchema.Keyed
import QuerySchema.Proofs.Outcomes

/-!
What is left after a list of writes.

Pairs written one after the other into an empty map leave each key once, where it was first written,
with the value that was written last. `settled` says so without writing: it looks for the keys and
for their values in the list of pairs.

What is proved:
  1. `get?_foldl_put_eq`: the last write of a key is what is found under it.
  2. `keys_foldl_put`: the keys come in the order of their first writes.
  3. `ofPairs_eq_settled`: writing pairs one after the other settles them; `settled_map`,
     `settled_filter`: that goes by the keys alone, and each key for itself.
  4. `foldlM_writes`, `keys_foldlM_filter`: steps that each write one pair, or none, come to writing
     the pairs; their keys are those of the items that write.
-/

namespace QuerySchema

namespace Keyed

variable {κ σ α β : Type} [DecidableEq κ]

/-- The value that comes last with a key. -/
def lastValue? (pairs : List (κ × α)) (key : κ) : Option α :=
  Outcome.lastGiven (fun p : κ × α => p.1 = key) (fun p => some p.2) pairs

/-- Each key once, in the order in which the keys first come, with the value that comes last. -/
def settled (pairs : List (κ × α)) : Keyed κ α :=
  (pairs.map Prod.fst).eraseDups.filterMap fun key =>
    (lastValue? pairs key).map fun value => (key, value)

/-! ## Lists without repetition -/

theorem eraseDups_append_of_mem {names : List κ} {name : κ} (h : name ∈ names) (rest : List κ) :
    (names ++ name :: rest).eraseDups = (names ++ rest).eraseDups := by
  have hskip : (name :: rest).removeAll names = rest.removeAll names := by
    simp [List.removeAll, h]
  rw [List.eraseDups_append, List.eraseDups_append, hskip]

theorem eraseDups_sublist (names : List κ) : names.eraseDups.Sublist names := by
  cases names with
  | nil => exact List.Sublist.refl _
  | cons name rest =>
    rw [List.eraseDups_cons]
    exact .cons_cons name ((eraseDups_sublist _).trans List.filter_sublist)
termination_by names.length
decreasing_by exact Nat.lt_succ_of_le (List.length_filter_le _ _)

theorem nodup_eraseDups (names : List κ) : names.eraseDups.Nodup := by
  cases names with
  | nil => exact List.nodup_nil
  | cons name rest =>
    rw [List.eraseDups_cons, List.nodup_cons]
    refine ⟨fun hmem => ?_, nodup_eraseDups _⟩
    have hother := (List.mem_filter.mp (List.mem_eraseDups.mp hmem)).2
    simp at hother
termination_by names.length
decreasing_by exact Nat.lt_succ_of_le (List.length_filter_le _ _)

theorem eraseDups_eq_self {names : List κ} (h : names.Nodup) : names.eraseDups = names := by
  induction names with
  | nil => rfl
  | cons name rest ih =>
    obtain ⟨hname, hrest⟩ := List.nodup_cons.mp h
    have hall : (rest.filter fun other => !other == name) = rest := by
      refine List.filter_eq_self.mpr fun other hother => ?_
      have hne : other ≠ name := fun he => hname (he ▸ hother)
      simpa using hne
    rw [List.eraseDups_cons, hall, ih hrest]

/-- As many are left as there were just when none comes twice. -/
theorem length_eraseDups_eq_iff {names : List κ} :
    names.eraseDups.length = names.length ↔ names.Nodup := by
  constructor
  · intro hlength
    have hall : names.eraseDups = names := (eraseDups_sublist names).eq_of_length hlength
    rw [← hall]
    exact nodup_eraseDups names
  · intro hnodup
    rw [eraseDups_eq_self hnodup]

/-- Names that are left out do not change which of the others are repetitions. -/
theorem eraseDups_filter (keep : κ → Bool) : ∀ names : List κ,
    (names.filter keep).eraseDups = names.eraseDups.filter keep
  | [] => rfl
  | name :: rest => by
    have hothers := eraseDups_filter keep (rest.filter fun other => !other == name)
    rw [List.eraseDups_cons, List.filter_cons, List.filter_cons, ← hothers, List.filter_filter]
    cases hkeep : keep name with
    | true =>
      simp only [if_true, List.eraseDups_cons, List.filter_filter, Bool.and_comm]
    | false =>
      -- leaving out `name` comes first, so leaving it out once more changes nothing
      simp only [Bool.false_eq_true, if_false]
      congr 1
      refine List.filter_congr fun other _ => ?_
      by_cases he : other = name
      · simp [he, hkeep]
      · simp [he]
termination_by names => names.length
decreasing_by exact Nat.lt_succ_of_le (List.length_filter_le _ _)

/-- Without repetition names that are told apart stay as they are when they are renamed. -/
theorem eraseDups_map [DecidableEq σ] (f : κ → σ) : ∀ names : List κ,
    (∀ a ∈ names, ∀ b ∈ names, f a = f b → a = b) →
    (names.map f).eraseDups = names.eraseDups.map f
  | [], _ => rfl
  | name :: rest, hf => by
    have hothers : (rest.map f).filter (fun other => !other == f name) =
        (rest.filter fun other => !other == name).map f := by
      rw [List.filter_map]
      congr 1
      refine List.filter_congr fun other hother => ?_
      have hsame : (f other == f name) = (other == name) := by
        rw [Bool.eq_iff_iff, beq_iff_eq, beq_iff_eq]
        exact ⟨hf other (List.mem_cons_of_mem _ hother) name List.mem_cons_self, congrArg f⟩
      rw [Function.comp_apply, hsame]
    rw [List.map_cons, List.eraseDups_cons, List.eraseDups_cons, List.map_cons, hothers,
      eraseDups_map f (rest.filter fun other => !other == name)]
    intro a ha b hb
    exact hf a (List.mem_cons_of_mem _ (List.mem_filter.mp ha).1) b
      (List.mem_cons_of_mem _ (List.mem_filter.mp hb).1)
termination_by names => names.length
decreasing_by exact Nat.lt_succ_of_le (List.length_filter_le _ _)

/-! ## Maps that are known by their keys and look-ups -/

/-- Two maps without repeated keys are the same when they have the same keys in the same order and
the same value under each. -/
theorem eq_of_get? {m n : Keyed κ α} (hm : m.keys.Nodup) (hkeys : m.keys = n.keys)
    (hget : ∀ key, m.get? key = n.get? key) : m = n := by
  induction m generalizing n with
  | nil =>
    cases n with
    | nil => rfl
    | cons p rest => cases hkeys
  | cons p rest ih =>
    cases n with
    | nil => cases hkeys
    | cons q others =>
      obtain ⟨k, v⟩ := p
      obtain ⟨l, w⟩ := q
      rw [keys_cons, keys_cons, List.cons.injEq] at hkeys
      obtain ⟨rfl, hkeys⟩ := hkeys
      rw [keys_cons, List.nodup_cons] at hm
      have hvalue : v = w := by simpa [get?] using hget k
      have hrest : ∀ key, get? rest key = get? others key := by
        intro key
        by_cases hk : k = key
        · -- the first key stands in neither rest
          have hnone {found : Keyed κ α} (hf : k ∉ found.keys) : found.get? key = none := by
            rw [← hk, ← Option.not_isSome_iff_eq_none]
            exact fun hs => hf ((contains_iff_mem_keys found k).mp hs)
          rw [hnone hm.1, hnone (hkeys ▸ hm.1)]
        · simpa [get?, hk] using hget key
      rw [hvalue, ih hm.2 hkeys hrest]

omit [DecidableEq κ] in
theorem keys_filterMap_pair (names : List κ) (f : κ → Option α) :
    keys (names.filterMap fun key => (f key).map fun value => (key, value)) =
      names.filter fun key => (f key).isSome := by
  induction names with
  | nil => rfl
  | cons name rest ih =>
    cases hf : f name with
    | none => simpa [hf] using ih
    | some value => simpa [hf, keys] using ih

theorem get?_filterMap_pair (names : List κ) (f : κ → Option α) (key : κ) :
    get? (names.filterMap fun name => (f name).map fun value => (name, value)) key =
      if key ∈ names then f key else none := by
  induction names with
  | nil => rfl
  | cons name rest ih =>
    by_cases hk : name = key
    · subst hk
      cases hf : f name with
      | none => simp [hf, ih]
      | some value => simp [hf, get?]
    · have hk' : key ≠ name := fun e => hk e.symm
      cases hf : f name with
      | none => simp [hf, ih, hk']
      | some value => simp [hf, get?, hk, ih, hk']

/-! ## Writing pairs one after the other -/

theorem lastValue?_cons (key : κ) (p : κ × α) (rest : List (κ × α)) :
    lastValue? (p :: rest) key = (lastValue? rest key).or (if p.1 = key then some p.2 else none) :=
  Outcome.lastGiven_cons p rest

theorem lastValue?_isSome (pairs : List (κ × α)) (key : κ) :
    (lastValue? pairs key).isSome = true ↔ key ∈ pairs.map Prod.fst := by
  rw [lastValue?, Outcome.lastGiven_isSome, List.mem_map]
  exact exists_congr fun p => and_congr_right fun _ => and_iff_left rfl

/-- The last write of a key is what is found under it. -/
theorem get?_foldl_put_eq (pairs : List (κ × α)) (m : Keyed κ α) (key : κ) :
    (pairs.foldl (fun m p => m.put p.1 p.2) m).get? key = (lastValue? pairs key).or (m.get? key) := by
  induction pairs generalizing m with
  | nil => rfl
  | cons p rest ih =>
    rw [List.foldl_cons, ih, lastValue?_cons, Option.or_assoc]
    congr 1
    by_cases hk : p.1 = key
    · rw [if_pos hk, ← hk, get?_put_self]
      rfl
    · rw [if_neg hk, get?_put_of_ne m p.2 fun e => hk e.symm]
      rfl

/-- The keys come in the order of their first writes. -/
theorem keys_foldl_put (pairs : List (κ × α)) {m : Keyed κ α} (hm : m.keys.Nodup) :
    (pairs.foldl (fun m p => m.put p.1 p.2) m).keys = (m.keys ++ pairs.map Prod.fst).eraseDups := by
  induction pairs generalizing m with
  | nil => rw [List.map_nil, List.append_nil, eraseDups_eq_self hm]; rfl
  | cons p rest ih =>
    rw [List.foldl_cons, ih (nodup_keys_put hm p.1 p.2), keys_put, List.map_cons]
    split
    · next hmem => rw [eraseDups_append_of_mem hmem]
    · rw [List.append_assoc, List.singleton_append]

theorem keys_ofPairs (pairs : List (κ × α)) :
    (ofPairs pairs).keys = (pairs.map Prod.fst).eraseDups :=
  keys_foldl_put pairs nodup_keys_nil

theorem keys_settled (pairs : List (κ × α)) :
    (settled pairs).keys = (pairs.map Prod.fst).eraseDups := by
  rw [settled, keys_filterMap_pair]
  refine List.filter_eq_self.mpr fun key hkey => ?_
  exact (lastValue?_isSome pairs key).mpr (List.mem_eraseDups.mp hkey)

theorem get?_settled (pairs : List (κ × α)) (key : κ) :
    (settled pairs).get? key = lastValue? pairs key := by
  rw [settled, get?_filterMap_pair]
  simp only [List.mem_eraseDups]
  split
  · rfl
  · next hnot =>
    have hnone := mt (lastValue?_isSome pairs key).mp hnot
    exact (Option.not_isSome_iff_eq_none.mp hnone).symm

theorem nodup_keys_settled (pairs : List (κ × α)) : (settled pairs).keys.Nodup :=
  keys_settled pairs ▸ nodup_eraseDups _

theorem mem_settled {pairs : List (κ × α)} {key : κ} {value : α} :
    (key, value) ∈ settled pairs ↔ lastValue? pairs key = some value := by
  rw [← get?_eq_some_iff (nodup_keys_settled pairs), get?_settled]

theorem mem_of_lastValue? {pairs : List (κ × α)} {key : κ} {value : α}
    (h : lastValue? pairs key = some value) : (key, value) ∈ pairs := by
  obtain ⟨p, hp, rfl, hvalue⟩ := Outcome.exists_of_lastGiven h
  cases hvalue
  exact hp

/-- Settling adds nothing. -/
theorem mem_of_mem_settled {pairs : List (κ × α)} {p : κ × α} (h : p ∈ settled pairs) : p ∈ pairs :=
  mem_of_lastValue? (mem_settled.mp h)

theorem lastValue?_filter (keep : κ → Bool) (pairs : List (κ × α)) (key : κ) :
    lastValue? (pairs.filter fun p => keep p.1) key =
      if keep key then lastValue? pairs key else none := by
  induction pairs with
  | nil => simp [lastValue?, Outcome.lastGiven]
  | cons p rest ih =>
    by_cases hk : p.1 = key
    · subst hk
      cases hkeep : keep p.1 <;> simp [hkeep, lastValue?_cons, ih]
    · cases hkeep : keep p.1 <;> simp [hkeep, lastValue?_cons, ih, hk]

/-- Settling commutes with leaving out keys. -/
theorem settled_filter (keep : κ → Bool) (pairs : List (κ × α)) :
    settled (pairs.filter fun p => keep p.1) = (settled pairs).filter fun p => keep p.1 := by
  have hkeys : (pairs.filter fun p => keep p.1).map Prod.fst =
      (pairs.map Prod.fst).filter keep := by
    rw [List.filter_map]
    rfl
  rw [settled, settled, hkeys, eraseDups_filter, List.filter_filterMap, List.filterMap_filter]
  congr 1
  funext key
  rw [lastValue?_filter]
  cases lastValue? pairs key with
  | none => simp
  | some value => cases hkeep : keep key <;> simp [Option.filter, hkeep]

/-- Writing pairs one after the other settles them. -/
theorem ofPairs_eq_settled (pairs : List (κ × α)) : ofPairs pairs = settled pairs := by
  refine eq_of_get? ?_ ?_ fun key => ?_
  · rw [keys_ofPairs]
    exact nodup_eraseDups _
  · rw [keys_ofPairs, keys_settled]
  · have hwritten : (ofPairs pairs).get? key = lastValue? pairs key :=
      (get?_foldl_put_eq pairs [] key).trans Option.or_none
    rw [hwritten, get?_settled]

theorem lastValue?_map (f : α → β) (pairs : List (κ × α)) (key : κ) :
    lastValue? (pairs.map fun p => (p.1, f p.2)) key = (lastValue? pairs key).map f := by
  induction pairs with
  | nil => rfl
  | cons p rest ih =>
    rw [List.map_cons, lastValue?_cons, lastValue?_cons, ih]
    cases lastValue? rest key with
    | some value => rfl
    | none => by_cases hk : p.1 = key <;> simp [hk]

/-- Settling goes by the keys alone, so it commutes with a change of the values. -/
theorem settled_map (f : α → β) (pairs : List (κ × α)) :
    settled (pairs.map fun p => (p.1, f p.2)) = (settled pairs).map fun p => (p.1, f p.2) := by
  have hkeys : (pairs.map fun p => (p.1, f p.2)).map Prod.fst = pairs.map Prod.fst := by
    rw [List.map_map]
    rfl
  have hvalues : (fun key => (lastValue? (pairs.map fun p => (p.1, f p.2)) key).map fun value =>
      (key, value)) = fun key => ((lastValue? pairs key).map fun value => (key, value)).map
        fun p => (p.1, f p.2) := by
    funext key
    rw [lastValue?_map, Option.map_map, Option.map_map]
    rfl
  rw [settled, settled, hkeys, hvalues, List.map_filterMap]

/-- Steps that each write one pair, or none, come to writing the pairs. -/
theorem foldlM_writes {ρ ε : Type} {step : Keyed κ α → β → Reported ρ ε (Keyed κ α)}
    {write : β → Option (κ × α)} {items : List β}
    (hstep : ∀ before item reports next, step before item = ⟨reports, .ok next⟩ →
      next = (write item).toList.foldl (fun m p => m.put p.1 p.2) before)
    {start out : Keyed κ α} {reports : List ρ} (h : items.foldlM step start = ⟨reports, .ok out⟩) :
    out = (items.filterMap write).foldl (fun m p => m.put p.1 p.2) start := by
  induction items generalizing start reports with
  | nil => exact (Reported.foldlM_nil_eq_ok.mp h).2.symm
  | cons item rest ih =>
    obtain ⟨next, r₁, r₂, hitem, hrest, -⟩ := Reported.foldlM_cons_eq_ok.mp h
    rw [ih hrest, hstep start item r₁ next hitem]
    cases hw : write item with
    | none => simp [hw]
    | some p => simp [hw]

/-- Steps that write under the key of their item where it passes a test, and change nothing where it
does not, leave the keys of the items that pass. -/
theorem keys_foldlM_filter {ρ ε τ : Type} {step : τ → β → Reported ρ ε τ} (look : τ → Keyed κ α)
    (key : β → κ) (writes : β → Bool) {items : List β}
    (hstep : ∀ before item reports next, step before item = ⟨reports, .ok next⟩ →
      if writes item then ∃ value, look next = (look before).put (key item) value
      else look next = look before)
    {start out : τ} {reports : List ρ} (hstart : (look start).keys.Nodup)
    (h : items.foldlM step start = ⟨reports, .ok out⟩) :
    (look out).keys = ((look start).keys ++ (items.filter writes).map key).eraseDups := by
  induction items generalizing start reports with
  | nil =>
    obtain ⟨-, rfl⟩ := Reported.foldlM_nil_eq_ok.mp h
    rw [List.filter_nil, List.map_nil, List.append_nil, eraseDups_eq_self hstart]
  | cons item rest ih =>
    obtain ⟨next, r₁, r₂, hitem, hrest, -⟩ := Reported.foldlM_cons_eq_ok.mp h
    have hnext := hstep start item r₁ next hitem
    by_cases hw : writes item = true
    · rw [if_pos hw] at hnext
      obtain ⟨value, hput⟩ := hnext
      rw [ih (hput ▸ nodup_keys_put hstart (key item) value) hrest, hput, keys_put,
        List.filter_cons_of_pos hw, List.map_cons]
      split
      · next hmem => rw [eraseDups_append_of_mem hmem]
      · rw [List.append_assoc, List.singleton_append]
    · rw [if_neg hw] at hnext
      rw [ih (hnext ▸ hstart) hrest, hnext, List.filter_cons_of_neg hw]

end Keyed

end QuerySchema
