/-!
Work that reports while it is done.

A `Reported` value is a result, or a reason why there is none, together with the reports that were
made on the way. The reports made before a failure are kept. It has no other effect, so what a
piece of work says and what it yields depend on its inputs alone.

What is stated here:
  1. `Reported ρ ε` is a lawful monad.
  2. `reports_bind`, `result_bind`: the reports of two steps stand in the order of the steps, and
     the second step is done only when the first one succeeds.
  3. `bind_eq_ok`: what it means that two steps succeed; proofs take work apart with it.
-/

namespace QuerySchema

/-- The outcome of a piece of work, with the reports made on the way. -/
structure Reported (ρ ε α : Type) where
  reports : List ρ
  result : Except ε α

namespace Reported

variable {ρ σ ε ζ α β τ : Type}

@[ext] theorem ext {x y : Reported ρ ε α} (hr : x.reports = y.reports)
    (he : x.result = y.result) : x = y := by
  cases x; cases y; simp_all

/-- Goes on after a step that succeeded. -/
def andThen (x : Reported ρ ε α) (f : α → Reported ρ ε β) : Reported ρ ε β :=
  match x.result with
  | .ok a => ⟨x.reports ++ (f a).reports, (f a).result⟩
  | .error e => ⟨x.reports, .error e⟩

instance : Monad (Reported ρ ε) where
  pure a := ⟨[], .ok a⟩
  bind := andThen

/-- Makes a report. -/
def report (r : ρ) : Reported ρ ε Unit := ⟨[r], .ok ()⟩

/-- Makes several reports. -/
def reportAll (rs : List ρ) : Reported ρ ε Unit := ⟨rs, .ok ()⟩

/-- Gives up. -/
def fail (e : ε) : Reported ρ ε α := ⟨[], .error e⟩

/-- A step that makes no report. -/
def ofExcept (result : Except ε α) : Reported ρ ε α := ⟨[], result⟩

/-- The same work, told in other words. -/
def retell (reports : ρ → List σ) (reason : ε → ζ) (x : Reported ρ ε α) : Reported σ ζ α :=
  ⟨x.reports.flatMap reports, x.result.mapError reason⟩

@[simp] theorem reports_pure (a : α) : (pure a : Reported ρ ε α).reports = [] := rfl

@[simp] theorem result_pure (a : α) : (pure a : Reported ρ ε α).result = .ok a := rfl

/-- The reports of two steps stand in the order of the steps; a failure makes none after it. -/
theorem reports_bind (x : Reported ρ ε α) (f : α → Reported ρ ε β) :
    (x >>= f).reports = x.reports ++ (match x.result with
      | .ok a => (f a).reports
      | .error _ => []) := by
  change (andThen x f).reports = _
  unfold andThen
  cases x.result <;> simp

/-- The reports of two steps of which the first succeeds. -/
theorem reports_bind_of_ok {x : Reported ρ ε α} {f : α → Reported ρ ε β} {a : α}
    (h : x.result = .ok a) : (x >>= f).reports = x.reports ++ (f a).reports := by
  rw [reports_bind, h]

/-- The result of two steps is that of the second one, or the failure of the first. -/
theorem result_bind (x : Reported ρ ε α) (f : α → Reported ρ ε β) :
    (x >>= f).result = (match x.result with
      | .ok a => (f a).result
      | .error e => .error e) := by
  change (andThen x f).result = _
  unfold andThen
  cases x.result <;> rfl

/-- What two steps yield is what their results yield, whatever they report. -/
theorem result_bind_eq (x : Reported ρ ε α) (f : α → Reported ρ ε β) :
    (x >>= f).result = x.result >>= fun a => (f a).result := by
  rw [result_bind]
  cases x.result <;> rfl

@[simp] theorem result_retell (reports : ρ → List σ) (reason : ε → ζ) (x : Reported ρ ε α) :
    (x.retell reports reason).result = x.result.mapError reason := rfl

instance : LawfulMonad (Reported ρ ε) := LawfulMonad.mk' (Reported ρ ε)
  (fun x => by
    apply ext
    · change (andThen x _).reports = _
      unfold andThen
      cases h : x.result <;> simp
    · change (andThen x _).result = _
      unfold andThen
      cases h : x.result <;> rfl)
  (fun a f => by
    apply ext
    · rw [reports_bind]; rfl
    · rw [result_bind]; rfl)
  (fun x f g => by
    apply ext
    · simp only [reports_bind, result_bind]
      cases x.result with
      | error e => simp
      | ok a => cases (f a).result <;> simp
    · simp only [result_bind]
      cases x.result <;> rfl)

/-! ## Work that succeeds -/

@[simp] theorem result_map (f : α → β) (x : Reported ρ ε α) :
    (f <$> x).result = x.result.map f := by
  rw [map_eq_pure_bind, result_bind]
  cases x.result <;> rfl

@[simp] theorem reports_map (f : α → β) (x : Reported ρ ε α) : (f <$> x).reports = x.reports := by
  rw [map_eq_pure_bind, reports_bind]
  cases x.result <;> exact List.append_nil _

@[simp] theorem pure_eq_ok {a b : α} {rs : List ρ} :
    (pure a : Reported ρ ε α) = ⟨rs, .ok b⟩ ↔ rs = [] ∧ a = b := by
  constructor
  · intro h; cases h; exact ⟨rfl, rfl⟩
  · rintro ⟨rfl, rfl⟩; rfl

@[simp] theorem ofExcept_eq_ok {result : Except ε α} {a : α} {rs : List ρ} :
    (ofExcept result : Reported ρ ε α) = ⟨rs, .ok a⟩ ↔ rs = [] ∧ result = .ok a := by
  constructor
  · intro h; cases h; exact ⟨rfl, rfl⟩
  · rintro ⟨rfl, rfl⟩; rfl

@[simp] theorem report_eq_ok {r : ρ} {u : Unit} {rs : List ρ} :
    (report r : Reported ρ ε Unit) = ⟨rs, .ok u⟩ ↔ rs = [r] := by
  constructor
  · intro h; cases h; rfl
  · rintro rfl; rfl

@[simp] theorem fail_ne_ok {e : ε} {a : α} {rs : List ρ} :
    (fail e : Reported ρ ε α) ≠ ⟨rs, .ok a⟩ := by
  intro h; cases h

/-- Two steps succeed when the first yields something from which the second goes on; the reports
are those of both. -/
theorem bind_eq_ok {x : Reported ρ ε α} {f : α → Reported ρ ε β} {b : β} {rs : List ρ} :
    x >>= f = ⟨rs, .ok b⟩ ↔
      ∃ a r₁ r₂, x = ⟨r₁, .ok a⟩ ∧ f a = ⟨r₂, .ok b⟩ ∧ rs = r₁ ++ r₂ := by
  constructor
  · intro h
    have hr := congrArg Reported.reports h
    have hv := congrArg Reported.result h
    rw [reports_bind] at hr
    rw [result_bind] at hv
    cases hx : x.result with
    | error e => rw [hx] at hv; cases hv
    | ok a =>
      rw [hx] at hr hv
      exact ⟨a, x.reports, (f a).reports, ext rfl hx, ext rfl hv, hr.symm⟩
  · rintro ⟨a, r₁, r₂, rfl, hf, rfl⟩
    show (⟨r₁ ++ (f a).reports, (f a).result⟩ : Reported ρ ε β) = _
    rw [hf]

theorem map_eq_ok {f : α → β} {x : Reported ρ ε α} {b : β} {rs : List ρ} :
    f <$> x = ⟨rs, .ok b⟩ ↔ ∃ a, x = ⟨rs, .ok a⟩ ∧ f a = b := by
  rw [map_eq_pure_bind, bind_eq_ok]
  constructor
  · rintro ⟨a, r₁, r₂, rfl, hf, rfl⟩
    obtain ⟨rfl, rfl⟩ := pure_eq_ok.mp hf
    exact ⟨a, by rw [List.append_nil], rfl⟩
  · rintro ⟨a, rfl, rfl⟩
    exact ⟨a, rs, [], rfl, rfl, (List.append_nil rs).symm⟩

/-! ## Work along a list -/

theorem foldlM_cons_eq_ok {f : β → α → Reported ρ ε β} {b out : β} {a : α} {as : List α}
    {rs : List ρ} : (a :: as).foldlM f b = ⟨rs, .ok out⟩ ↔
      ∃ next r₁ r₂, f b a = ⟨r₁, .ok next⟩ ∧ as.foldlM f next = ⟨r₂, .ok out⟩ ∧ rs = r₁ ++ r₂ := by
  rw [List.foldlM_cons, bind_eq_ok]

theorem foldlM_nil_eq_ok {f : β → α → Reported ρ ε β} {b out : β} {rs : List ρ} :
    [].foldlM f b = ⟨rs, .ok out⟩ ↔ rs = [] ∧ b = out := by
  rw [List.foldlM_nil, pure_eq_ok]

/-- What every step keeps is kept by all of them together. -/
theorem foldlM_preserves {f : β → α → Reported ρ ε β} {motive : β → Prop} {as : List α}
    (step : ∀ b a, a ∈ as → motive b → ∀ rs next, f b a = ⟨rs, .ok next⟩ → motive next)
    {b out : β} {rs : List ρ} (hb : motive b) (h : as.foldlM f b = ⟨rs, .ok out⟩) : motive out := by
  induction as generalizing b rs with
  | nil => exact (foldlM_nil_eq_ok.mp h).2 ▸ hb
  | cons a rest ih =>
    obtain ⟨next, r₁, r₂, hstep, hrest, -⟩ := foldlM_cons_eq_ok.mp h
    exact ih (fun b a ha => step b a (List.mem_cons_of_mem _ ha))
      (step b a List.mem_cons_self hb r₁ next hstep) hrest

/-- Steps that report on their items alone report on the items in order. -/
theorem foldlM_reports {f : β → α → Reported ρ ε β} {g : α → List ρ} {as : List α}
    (step : ∀ b a, a ∈ as → ∀ rs next, f b a = ⟨rs, .ok next⟩ → rs = g a)
    {b out : β} {rs : List ρ} (h : as.foldlM f b = ⟨rs, .ok out⟩) : rs = as.flatMap g := by
  induction as generalizing b rs with
  | nil => exact (foldlM_nil_eq_ok.mp h).1
  | cons a rest ih =>
    obtain ⟨next, r₁, r₂, hstep, hrest, rfl⟩ := foldlM_cons_eq_ok.mp h
    rw [List.flatMap_cons, step b a List.mem_cons_self r₁ next hstep,
      ih (fun b a ha => step b a (List.mem_cons_of_mem _ ha)) hrest]

/-- Each step of a list that is gone through succeeds. -/
theorem exists_of_foldlM {f : β → α → Reported ρ ε β} {as : List α} {b out : β} {rs : List ρ}
    (h : as.foldlM f b = ⟨rs, .ok out⟩) {a : α} (ha : a ∈ as) :
    ∃ before rs next, f before a = ⟨rs, .ok next⟩ := by
  induction as generalizing b rs with
  | nil => cases ha
  | cons first rest ih =>
    obtain ⟨next, r₁, r₂, hstep, hrest, -⟩ := foldlM_cons_eq_ok.mp h
    rcases List.mem_cons.mp ha with rfl | ha
    · exact ⟨b, r₁, next, hstep⟩
    · exact ih hrest ha

/-- In a silent run every step is silent. -/
theorem foldlM_silent {f : β → α → Reported ρ ε β} {as : List α} {b out : β}
    (h : as.foldlM f b = ⟨[], .ok out⟩) : ∀ a ∈ as, ∃ before next, f before a = ⟨[], .ok next⟩ := by
  induction as generalizing b with
  | nil => exact fun a ha => absurd ha List.not_mem_nil
  | cons first rest ih =>
    obtain ⟨next, r₁, r₂, hstep, hrest, hreports⟩ := foldlM_cons_eq_ok.mp h
    obtain ⟨rfl, rfl⟩ := List.append_eq_nil_iff.mp hreports.symm
    exact List.forall_mem_cons.mpr ⟨⟨b, next, hstep⟩, ih hrest⟩

/-- Items whose steps change nothing can be left out, in any number. -/
theorem foldlM_sublist {f : β → α → Reported ρ ε β} {counts : α → Bool}
    (hskip : ∀ a, counts a = false → ∀ b rs next, f b a = ⟨rs, .ok next⟩ → next = b)
    {kept items : List α} (hkept : kept.Sublist items)
    (hsame : kept.filter counts = items.filter counts) {b out : β} {rs : List ρ}
    (h : items.foldlM f b = ⟨rs, .ok out⟩) : ∃ r, kept.foldlM f b = ⟨r, .ok out⟩ := by
  induction hkept generalizing b rs with
  | slnil => exact ⟨rs, h⟩
  | cons a hkept ih =>
    obtain ⟨next, r₁, r₂, hstep, hrest, -⟩ := foldlM_cons_eq_ok.mp h
    -- an item that counts cannot be missing, since as many are left as there were
    have ha : counts a = false := by
      rw [← Bool.not_eq_true]
      intro ha
      rw [List.filter_cons_of_pos ha] at hsame
      have hlength := (hkept.filter counts).length_le
      rw [hsame, List.length_cons] at hlength
      exact absurd hlength (Nat.not_succ_le_self _)
    rw [List.filter_cons_of_neg (by simp [ha])] at hsame
    obtain rfl : next = b := hskip a ha b r₁ next hstep
    exact ih hsame hrest
  | @cons_cons kept rest a hkept ih =>
    obtain ⟨next, r₁, r₂, hstep, hrest, -⟩ := foldlM_cons_eq_ok.mp h
    have hrests : kept.filter counts = rest.filter counts := by
      by_cases ha : counts a = true
      · simpa [ha] using hsame
      · simpa [ha] using hsame
    obtain ⟨r, hr⟩ := ih hrests hrest
    exact ⟨r₁ ++ r, foldlM_cons_eq_ok.mpr ⟨next, r₁, r, hstep, hr, rfl⟩⟩

theorem ofExcept_map (f : α → β) (x : Except ε α) :
    ofExcept (x.map f) = (f <$> ofExcept x : Reported ρ ε β) := by
  cases x <;> rfl

/-- Steps that make no report make none together. -/
theorem foldlM_ofExcept (f : β → α → Except ε β) (as : List α) (b : β) :
    as.foldlM (fun b a => ofExcept (f b a)) b = (ofExcept (as.foldlM f b) : Reported ρ ε β) := by
  induction as generalizing b with
  | nil => rfl
  | cons a rest ih =>
    rw [List.foldlM_cons, List.foldlM_cons]
    cases hstep : f b a with
    | error e => rfl
    | ok next => exact ih next

/-- Steps that a map takes to other steps are taken to them together. -/
theorem foldlM_hom {f : β → τ} {step : β → α → Reported ρ ε β} {step' : τ → α → Reported ρ ε τ}
    (h : ∀ b a, step' (f b) a = f <$> step b a) (items : List α) (start : β) :
    items.foldlM step' (f start) = f <$> items.foldlM step start := by
  induction items generalizing start with
  | nil => rfl
  | cons item rest ih =>
    rw [List.foldlM_cons, List.foldlM_cons, h, bind_map_left, map_bind]
    exact congrArg _ (funext ih)

end Reported

end QuerySchema
