import QuerySchema.Schema.Build

/-!
Outcomes: results that may be missing, alone and one for each item of a list.

What is proved:
  1. `Outcome.bind_eq_ok`, `Outcome.map_eq_ok`, `Build.read_eq_ok`: what it takes for a step to
     succeed.
  2. `Outcome.mapM_eq_error`, `Outcome.mapM_succeeds_iff`: a list of steps fails as its first
     failing step does, and succeeds when there is none.
  3. `Outcome.flatMap_of_mapM`: what a list of steps that all succeed yields, item by item.
  4. `Outcome.foldlM_decided`: what is found after a list of steps, when each step decides it by
     what its item gives; `Outcome.lastGiven` is the last item that gives something.
-/

namespace QuerySchema

namespace Outcome

variable {ε ζ α β γ : Type}

theorem bind_eq_ok {x : Except ε α} {f : α → Except ε β} {b : β} :
    x >>= f = .ok b ↔ ∃ a, x = .ok a ∧ f a = .ok b := by
  cases x with
  | error e => exact ⟨fun h => (nomatch h), fun ⟨_, h, _⟩ => (nomatch h)⟩
  | ok a => exact ⟨fun h => ⟨a, rfl, h⟩, fun ⟨_, h, hf⟩ => by cases h; exact hf⟩

theorem bind_eq_error {x : Except ε α} {f : α → Except ε β} {e : ε} :
    x >>= f = .error e ↔ x = .error e ∨ ∃ a, x = .ok a ∧ f a = .error e := by
  cases x with
  | error e' => exact ⟨fun h => .inl (by cases h; rfl), by rintro (h | ⟨_, h, _⟩) <;> cases h; rfl⟩
  | ok a => exact ⟨fun h => .inr ⟨a, rfl, h⟩, by rintro (h | ⟨_, h, hf⟩) <;> cases h; exact hf⟩

theorem ok_bind (a : α) (f : α → Except ε β) : Except.ok a >>= f = f a := rfl

theorem map_eq_ok {f : α → β} {x : Except ε α} {b : β} :
    x.map f = .ok b ↔ ∃ a, x = .ok a ∧ f a = b := by
  cases x with
  | error e => exact ⟨fun h => (nomatch h), fun ⟨_, h, _⟩ => (nomatch h)⟩
  | ok a => exact ⟨fun h => ⟨a, rfl, Except.ok.inj h⟩, fun ⟨_, h, hf⟩ => by cases h; rw [← hf]; rfl⟩

theorem map_eq_error {f : α → β} {x : Except ε α} {e : ε} :
    x.map f = .error e ↔ x = .error e := by
  cases x with
  | error e' => exact ⟨fun h => by cases h; rfl, fun h => by cases h; rfl⟩
  | ok a => exact ⟨fun h => (nomatch h), fun h => (nomatch h)⟩

theorem mapError_eq_ok {f : ε → ζ} {x : Except ε α} {a : α} :
    x.mapError f = .ok a ↔ x = .ok a := by
  cases x with
  | error e => exact ⟨fun h => (nomatch h), fun h => (nomatch h)⟩
  | ok a' => exact ⟨fun h => by cases h; rfl, fun h => by cases h; rfl⟩

theorem mapError_eq_error {f : ε → ζ} {x : Except ε α} {e : ζ} :
    x.mapError f = .error e ↔ ∃ cause, x = .error cause ∧ f cause = e := by
  cases x with
  | error cause =>
    exact ⟨fun h => ⟨cause, rfl, Except.error.inj h⟩, fun ⟨_, h, hf⟩ => by cases h; rw [← hf]; rfl⟩
  | ok a => exact ⟨fun h => (nomatch h), fun ⟨_, h, _⟩ => (nomatch h)⟩

/-! ## Lists of steps -/

/-- The first failing step decides how a list of steps fails. -/
theorem mapM_eq_error {f : α → Except ε β} {xs : List α} {e : ε} :
    xs.mapM f = .error e ↔ ∃ before x after, xs = before ++ x :: after ∧
      (∀ earlier ∈ before, ∃ b, f earlier = .ok b) ∧ f x = .error e := by
  induction xs with
  | nil => exact ⟨fun h => (nomatch h), fun ⟨before, x, after, h, _⟩ => by simp at h⟩
  | cons first rest ih =>
    rw [List.mapM_cons]
    -- the first step decides when it fails, and drops out of both sides when it succeeds
    cases hf : f first with
    | error e' =>
      constructor
      · intro h; cases h
        exact ⟨[], first, rest, rfl, fun _ h => absurd h List.not_mem_nil, hf⟩
      · rintro ⟨before, x, after, hxs, hall, hx⟩
        cases before with
        | nil => cases hxs; rw [hf] at hx; cases hx; rfl
        | cons b before =>
          cases hxs
          obtain ⟨y, hy⟩ := hall _ List.mem_cons_self
          rw [hf] at hy; cases hy
    | ok y =>
      have hcons : ((do let ys ← rest.mapM f; pure (y :: ys)) = Except.error e) ↔
          rest.mapM f = .error e := by
        cases rest.mapM f with
        | error e' => exact ⟨fun h => by cases h; rfl, fun h => by cases h; rfl⟩
        | ok ys => exact ⟨fun h => (nomatch h), fun h => (nomatch h)⟩
      refine hcons.trans (ih.trans ⟨?_, ?_⟩)
      · rintro ⟨before, x, after, rfl, hall, hx⟩
        refine ⟨first :: before, x, after, rfl, fun z hz => ?_, hx⟩
        rcases List.mem_cons.mp hz with rfl | hz
        · exact ⟨y, hf⟩
        · exact hall z hz
      · rintro ⟨before, x, after, hxs, hall, hx⟩
        cases before with
        | nil => cases hxs; rw [hf] at hx; cases hx
        | cons b before =>
          cases hxs
          exact ⟨before, x, after, rfl, fun z hz => hall z (List.mem_cons_of_mem _ hz), hx⟩

/-- What the steps of a list yield, when they all succeed, is what each of them yields in turn. -/
theorem flatMap_of_mapM {f : α → Except ε β} {g : β → List γ} {k : α → List γ} {xs : List α}
    {ys : List β} (h : xs.mapM f = .ok ys) (hk : ∀ x ∈ xs, ∀ y, f x = .ok y → k x = g y) :
    ys.flatMap g = xs.flatMap k := by
  induction xs generalizing ys with
  | nil => cases h; rfl
  | cons x xs ih =>
    rw [List.mapM_cons] at h
    obtain ⟨y, hy, h⟩ := bind_eq_ok.mp h
    obtain ⟨rest, hrest, h⟩ := bind_eq_ok.mp h
    cases h
    rw [List.flatMap_cons, List.flatMap_cons, hk x List.mem_cons_self y hy,
      ih hrest fun x hx => hk x (List.mem_cons_of_mem _ hx)]

/-- A list of steps that succeeds has succeeded at every item. -/
theorem exists_of_mapM {f : α → Except ε β} {xs : List α} {ys : List β} (h : xs.mapM f = .ok ys) :
    ∀ x ∈ xs, ∃ y ∈ ys, f x = .ok y := by
  induction xs generalizing ys with
  | nil => exact fun x hx => absurd hx List.not_mem_nil
  | cons first rest ih =>
    rw [List.mapM_cons] at h
    obtain ⟨y, hy, h⟩ := bind_eq_ok.mp h
    obtain ⟨zs, hrest, h⟩ := bind_eq_ok.mp h
    cases h
    intro x hx
    rcases List.mem_cons.mp hx with rfl | hx
    · exact ⟨y, List.mem_cons_self, hy⟩
    · obtain ⟨z, hz, hf⟩ := ih hrest x hx
      exact ⟨z, List.mem_cons_of_mem _ hz, hf⟩

/-- A list of steps succeeds just when every step does. -/
theorem mapM_succeeds_iff {f : α → Except ε β} {xs : List α} :
    (∃ ys, xs.mapM f = .ok ys) ↔ ∀ x ∈ xs, ∃ y, f x = .ok y := by
  constructor
  · rintro ⟨ys, h⟩ x hx
    obtain ⟨y, -, hy⟩ := exists_of_mapM h x hx
    exact ⟨y, hy⟩
  · intro h
    cases hm : xs.mapM f with
    | ok ys => exact ⟨ys, rfl⟩
    | error e =>
      obtain ⟨before, x, after, rfl, -, hfail⟩ := mapM_eq_error.mp hm
      obtain ⟨y, hy⟩ := h x (List.mem_append_right _ List.mem_cons_self)
      rw [hy] at hfail
      cases hfail

/-- What a list of steps yields has been yielded at some item. -/
theorem exists_item_of_mapM {f : α → Except ε β} {xs : List α} {ys : List β}
    (h : xs.mapM f = .ok ys) : ∀ y ∈ ys, ∃ x ∈ xs, f x = .ok y := by
  induction xs generalizing ys with
  | nil =>
    cases h
    exact fun y hy => absurd hy List.not_mem_nil
  | cons first rest ih =>
    rw [List.mapM_cons] at h
    obtain ⟨z, hz, h⟩ := bind_eq_ok.mp h
    obtain ⟨zs, hrest, h⟩ := bind_eq_ok.mp h
    cases h
    refine List.forall_mem_cons.mpr ⟨⟨first, List.mem_cons_self, hz⟩, fun y hy => ?_⟩
    obtain ⟨x, hx, hf⟩ := ih hrest y hy
    exact ⟨x, List.mem_cons_of_mem _ hx, hf⟩

/-- When each step of a list appends something for an item that passes a test, all of them together
append it for the items that do. -/
theorem foldlM_appends_filter {ρ σ : Type} {step : σ → α → Reported ρ ε σ} (look : σ → List γ)
    (test : α → Bool) (write : α → γ) {items : List α}
    (hstep : ∀ before item reports next, step before item = ⟨reports, .ok next⟩ →
      look next = if test item then look before ++ [write item] else look before)
    {start out : σ} {reports : List ρ} (h : items.foldlM step start = ⟨reports, .ok out⟩) :
    look out = look start ++ (items.filter test).map write := by
  induction items generalizing start reports with
  | nil =>
    obtain ⟨-, rfl⟩ := Reported.foldlM_nil_eq_ok.mp h
    exact (List.append_nil _).symm
  | cons item rest ih =>
    obtain ⟨next, r₁, r₂, hitem, hrest, -⟩ := Reported.foldlM_cons_eq_ok.mp h
    rw [ih hrest, hstep start item r₁ next hitem]
    cases ht : test item with
    | true => simp [ht]
    | false => simp [ht]

/-! ## The last item that gives something -/

/-- What is given by the last item that has a property and gives something. -/
def lastGiven (p : α → Prop) [DecidablePred p] (f : α → Option β) (items : List α) : Option β :=
  ((items.filter p).filterMap f).getLast?

variable {p : α → Prop} [DecidablePred p] {f : α → Option β}

/-- A later item that gives something takes precedence. -/
theorem lastGiven_cons (item : α) (rest : List α) :
    lastGiven p f (item :: rest) = (lastGiven p f rest).or (if p item then f item else none) := by
  unfold lastGiven
  by_cases hp : p item
  · rw [List.filter_cons_of_pos (by simpa using hp), if_pos hp, List.filterMap_cons]
    cases hf : f item with
    | none => exact Option.or_none.symm
    | some given =>
      simp only [List.getLast?_cons]
      cases (List.filterMap f (List.filter p rest)).getLast? <;> rfl
  · rw [List.filter_cons_of_neg (by simpa using hp), if_neg hp, Option.or_none]

/-- An item that gives something takes precedence over what stands before it. -/
theorem lastGiven_concat (items : List α) (item : α) :
    lastGiven p f (items ++ [item]) = (if p item then f item else none).or (lastGiven p f items) := by
  unfold lastGiven
  rw [List.filter_append, List.filterMap_append, List.getLast?_append]
  congr 1
  by_cases hp : p item
  · rw [List.filter_cons_of_pos (by simpa using hp), if_pos hp, List.filter_nil]
    cases hf : f item <;> simp [hf]
  · rw [List.filter_cons_of_neg (by simpa using hp), if_neg hp]
    rfl

theorem lastGiven_isSome (items : List α) :
    (lastGiven p f items).isSome = true ↔ ∃ item ∈ items, p item ∧ (f item).isSome = true := by
  induction items with
  | nil => simp [lastGiven]
  | cons first rest ih =>
    rw [lastGiven_cons, Option.isSome_or, Bool.or_eq_true, ih]
    simp only [List.mem_cons, exists_eq_or_imp]
    rw [or_comm]
    refine or_congr ?_ Iff.rfl
    split
    · next hp => simp [hp]
    · next hp => simp [hp]

/-- What is given last is given by some item. -/
theorem exists_of_lastGiven {items : List α} {given : β} (h : lastGiven p f items = some given) :
    ∃ item ∈ items, p item ∧ f item = some given := by
  obtain ⟨item, hitem, hgiven⟩ := List.mem_filterMap.mp (List.mem_of_getLast? h)
  obtain ⟨hmem, hp⟩ := List.mem_filter.mp hitem
  exact ⟨item, hmem, of_decide_eq_true hp, hgiven⟩

/-! ## What is decided by the last item -/

variable {κ ρ σ δ : Type} {fits : β → δ → Prop}

/-- What is found afterwards fits what was given; when nothing was, it is what was found before. -/
def Decided (fits : β → δ → Prop) (given : Option β) (before after : Option δ) : Prop :=
  match given with
  | some b => ∃ found, after = some found ∧ fits b found
  | none => after = before

theorem Decided.exists {given : Option β} {before after : Option δ}
    (h : Decided fits given before after) {b : β} (hb : given = some b) :
    ∃ found, after = some found ∧ fits b found := by
  rwa [hb] at h

theorem Decided.isSome {given : Option β} {after : Option δ} (h : Decided fits given none after) :
    after.isSome = given.isSome := by
  cases given with
  | none => exact congrArg Option.isSome h
  | some b =>
    obtain ⟨found, rfl, -⟩ := h
    rfl

theorem Decided.mono {fits' : β → δ → Prop} {given : Option β} {before after : Option δ}
    (h : Decided fits given before after) (hfits : ∀ b found, fits b found → fits' b found) :
    Decided fits' given before after := by
  cases given with
  | none => exact h
  | some b =>
    obtain ⟨found, hfound, hb⟩ := h
    exact ⟨found, hfound, hfits b found hb⟩

/-- When each step of a list decides what is found by what its item gives, all steps together decide
it by the last item that gives something. -/
theorem foldlM_decided {step : σ → α → Reported ρ ε σ} (look : σ → Option δ)
    (hstep : ∀ before item reports next, step before item = ⟨reports, .ok next⟩ →
      Decided fits (if p item then f item else none) (look before) (look next))
    {items : List α} {start out : σ} {reports : List ρ}
    (h : items.foldlM step start = ⟨reports, .ok out⟩) :
    Decided fits (lastGiven p f items) (look start) (look out) := by
  induction items generalizing start reports with
  | nil =>
    obtain ⟨-, rfl⟩ := Reported.foldlM_nil_eq_ok.mp h
    rfl
  | cons item rest ih =>
    obtain ⟨next, r₁, r₂, hitem, hrest, -⟩ := Reported.foldlM_cons_eq_ok.mp h
    have hlast := ih hrest
    rw [lastGiven_cons]
    cases hl : lastGiven p f rest with
    | some b => rw [hl] at hlast; exact hlast
    | none =>
      -- nothing later gives anything, so what is found is what this step left
      rw [hl] at hlast
      have hfound : look out = look next := hlast
      rw [Option.none_or, hfound]
      exact hstep start item r₁ next hitem

theorem mem_keys_iff_of_decided [DecidableEq κ] {m : Keyed κ δ} {key : κ} {given : Option β}
    (h : Decided fits given none (m.get? key)) : key ∈ m.keys ↔ given.isSome = true := by
  rw [← Keyed.contains_iff_mem_keys, Keyed.contains, h.isSome]

/-- What holds of every entry of a map holds of all that was given for its keys. -/
theorem forall_mem_iff_of_decided [DecidableEq κ] {m : Keyed κ δ} (hn : m.keys.Nodup)
    {given : κ → Option β} (hm : ∀ key, Decided fits (given key) none (m.get? key))
    (holds : κ → δ → Prop) (asked : κ → β → Prop)
    (h : ∀ key b found, fits b found → (holds key found ↔ asked key b)) :
    (∀ p ∈ m, holds p.1 p.2) ↔ ∀ key b, given key = some b → asked key b := by
  constructor
  · intro hall key b hb
    obtain ⟨found, hget, hfits⟩ := (hm key).exists hb
    exact (h key b found hfits).mp (hall _ (Keyed.mem_of_get? hget))
  · intro hall p hp
    have hget := (Keyed.get?_eq_some_iff hn).mpr hp
    have hsome := (hm p.1).isSome
    rw [hget] at hsome
    obtain ⟨b, hb⟩ := Option.isSome_iff_exists.mp hsome.symm
    obtain ⟨found, hfound, hfits⟩ := (hm p.1).exists hb
    rw [hget] at hfound
    cases hfound
    exact (h p.1 b p.2 hfits).mpr (hall p.1 b hb)

end Outcome

namespace Schema.Build

open GraphQL

@[simp] theorem read_eq_ok {α : Type} {role : Role} {place : Readable α} {a : α}
    {reports : List Diagnostic} :
    read role place = ⟨reports, .ok a⟩ ↔ reports = [] ∧ place = .ok a := by
  rw [read, Reported.ofExcept_eq_ok, Outcome.mapError_eq_ok]

/-- Reporting that a part is left out and going on without it. -/
theorem report_then_eq_ok {α : Type} {omission : Omission} {path : List Label} {a b : α}
    {reports : List Diagnostic} :
    (report omission path >>= fun _ => pure a) = (⟨reports, .ok b⟩ : Build α) ↔
      reports = [omission.reportAt path] ∧ a = b := by
  constructor
  · intro h
    obtain ⟨_, r₁, r₂, hreport, hput, rfl⟩ := Reported.bind_eq_ok.mp h
    obtain rfl := Reported.report_eq_ok.mp hreport
    obtain ⟨rfl, rfl⟩ := Reported.pure_eq_ok.mp hput
    exact ⟨rfl, rfl⟩
  · rintro ⟨rfl, rfl⟩
    rfl

end Schema.Build

end QuerySchema
