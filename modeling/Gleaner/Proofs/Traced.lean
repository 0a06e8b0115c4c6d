import Gleaner.Error
import Mathlib.Data.List.Forall2

/-! # Events and results of computations that report

What each way to make a computation reports, and how it ends, for one computation, for one after
another and for one per item of a list. -/

namespace Gleaner

/-- What comes of one computation after another. -/
theorem bind_eq_ok_iff {ε α β : Type} {x : Except ε α} {f : α → Except ε β} {b : β} :
    (x >>= f) = .ok b ↔ ∃ a, x = .ok a ∧ f a = .ok b := by
  cases x with
  | ok a => exact ⟨fun h => ⟨a, rfl, h⟩, fun ⟨_, rfl, h⟩ => h⟩
  | error e => exact ⟨nofun, nofun⟩

theorem bind_eq_error_iff {ε α β : Type} {x : Except ε α} {f : α → Except ε β} {e : ε} :
    (x >>= f) = .error e ↔ x = .error e ∨ ∃ a, x = .ok a ∧ f a = .error e := by
  cases x with
  | ok a => exact ⟨fun h => .inr ⟨a, rfl, h⟩, fun | .inr ⟨_, rfl, h⟩ => h⟩
  | error e' => exact ⟨fun h => .inl (by cases h; rfl), fun | .inl h => by cases h; rfl⟩

theorem map_eq_ok_iff {ε α β : Type} {x : Except ε α} {f : α → β} {b : β} :
    x.map f = .ok b ↔ ∃ a, x = .ok a ∧ f a = b := by
  cases x with
  | ok a => exact ⟨fun h => ⟨a, rfl, Except.ok.inj h⟩, fun ⟨_, h, hb⟩ => by cases h; rw [← hb]; rfl⟩
  | error e => exact ⟨nofun, nofun⟩

/-- A list goes through when each of its items does. -/
theorem mapM_eq_ok_iff {ε α β : Type} {f : α → Except ε β} {xs : List α} {ys : List β} :
    xs.mapM f = .ok ys ↔ List.Forall₂ (fun x y => f x = .ok y) xs ys := by
  induction xs generalizing ys with
  | nil =>
    rw [List.mapM_nil, List.forall₂_nil_left_iff]
    exact ⟨fun h => (Except.ok.inj h).symm, fun h => by rw [h]; rfl⟩
  | cons x xs ih =>
    rw [List.mapM_cons, List.forall₂_cons_left_iff, bind_eq_ok_iff]
    constructor
    · rintro ⟨y, hy, h⟩
      obtain ⟨rest, hrest, hys⟩ := bind_eq_ok_iff.mp h
      exact ⟨y, rest, hy, ih.mp hrest, (Except.ok.inj hys).symm⟩
    · rintro ⟨y, rest, hy, hrest, rfl⟩
      exact ⟨y, hy, bind_eq_ok_iff.mpr ⟨rest, ih.mpr hrest, rfl⟩⟩

/-- Named items go through under their names. -/
theorem mapM_named_eq_ok_iff {ε α β γ : Type} {f : β → Except ε γ} {xs : List (α × β)}
    {ys : List (α × γ)} :
    (xs.mapM fun x => do return (x.1, ← f x.2)) = .ok ys ↔
      List.Forall₂ (fun x y => y.1 = x.1 ∧ f x.2 = .ok y.2) xs ys := by
  rw [mapM_eq_ok_iff]
  refine iff_of_eq (congrArg (List.Forall₂ · xs ys) ?_)
  funext x y
  rw [bind_eq_ok_iff]
  refine propext ⟨?_, ?_⟩
  · rintro ⟨c, hc, hy⟩
    cases hy
    exact ⟨rfl, hc⟩
  · rintro ⟨hname, hc⟩
    exact ⟨y.2, hc, by rw [← hname]; rfl⟩

theorem exists_forall₂_iff {α β : Type} {R : α → β → Prop} {xs : List α} :
    (∃ ys, List.Forall₂ R xs ys) ↔ ∀ x ∈ xs, ∃ y, R x y := by
  induction xs with
  | nil => exact ⟨fun _ => List.forall_mem_nil _, fun _ => ⟨[], .nil⟩⟩
  | cons x xs ih =>
    rw [List.forall_mem_cons, ← ih]
    constructor
    · rintro ⟨_, hys⟩
      cases hys with
      | @cons _ y _ ys hy hys => exact ⟨⟨y, hy⟩, ys, hys⟩
    · rintro ⟨⟨y, hy⟩, ys, hys⟩
      exact ⟨y :: ys, .cons hy hys⟩

/-- A list fails like the first of its items that does. -/
theorem mapM_of_error {ε α β : Type} {f : α → Except ε β} {before after : List α} {x : α} {e : ε}
    (hbefore : ∀ a ∈ before, ∃ b, f a = .ok b) (hx : f x = .error e) :
    (before ++ x :: after).mapM f = .error e := by
  induction before with
  | nil => rw [List.nil_append, List.mapM_cons, hx]; rfl
  | cons a before ih =>
    obtain ⟨⟨b, hb⟩, hrest⟩ := List.forall_mem_cons.mp hbefore
    rw [List.cons_append, List.mapM_cons, hb, ih hrest]
    rfl

/-- If not all items of a list go through, there is a first one that fails. -/
theorem forall_ok_or_exists_error {ε α β : Type} (f : α → Except ε β) (xs : List α) :
    (∀ x ∈ xs, ∃ y, f x = .ok y) ∨ ∃ before x after e, xs = before ++ x :: after ∧
      (∀ a ∈ before, ∃ b, f a = .ok b) ∧ f x = .error e := by
  induction xs with
  | nil => exact .inl (List.forall_mem_nil _)
  | cons x xs ih =>
    cases hx : f x with
    | error e => exact .inr ⟨[], x, xs, e, rfl, List.forall_mem_nil _, hx⟩
    | ok y =>
      rcases ih with hall | ⟨before, x', after, e, rfl, hbefore, he⟩
      · exact .inl (List.forall_mem_cons.mpr ⟨⟨y, hx⟩, hall⟩)
      · exact .inr ⟨x :: before, x', after, e, rfl, List.forall_mem_cons.mpr ⟨⟨y, hx⟩, hbefore⟩, he⟩

theorem exists_of_mapM_error {ε α β : Type} {f : α → Except ε β} {xs : List α} {e : ε}
    (h : xs.mapM f = .error e) : ∃ x ∈ xs, f x = .error e := by
  induction xs with
  | nil => cases h
  | cons x xs ih =>
    rw [List.mapM_cons] at h
    rcases bind_eq_error_iff.mp h with hx | ⟨y, -, h⟩
    · exact ⟨x, List.mem_cons_self, hx⟩
    rcases bind_eq_error_iff.mp h with hxs | ⟨ys, -, h⟩
    · obtain ⟨x', hmem, hx'⟩ := ih hxs
      exact ⟨x', List.mem_cons_of_mem x hmem, hx'⟩
    · cases h

namespace Traced

variable {τ σ α β : Type}

instance : LawfulMonad (Traced τ) :=
  LawfulMonad.mk' (Traced τ)
    (fun x => by
      change andThen x _ = x
      obtain ⟨events, result⟩ := x
      cases result <;> simp [andThen])
    (fun _ _ => rfl)
    (fun x f g => by
      change andThen (andThen x f) g = andThen x fun a => andThen (f a) g
      obtain ⟨events, result⟩ := x
      cases result with
      | error e => rfl
      | ok a => cases h : (f a).result <;> simp [andThen, h])

@[simp] theorem result_pure (a : α) : (pure a : Traced τ α).result = .ok a := rfl

@[simp] theorem events_pure (a : α) : (pure a : Traced τ α).events = [] := rfl

@[simp] theorem result_tell (events : List τ) : (tell events).result = .ok () := rfl

@[simp] theorem events_tell (events : List τ) : (tell events).events = events := rfl

@[simp] theorem result_fail (e : Error) : (fail e : Traced τ α).result = .error e := rfl

@[simp] theorem events_fail (e : Error) : (fail e : Traced τ α).events = [] := rfl

@[simp] theorem result_ofExcept (r : Except Error α) : (ofExcept r : Traced τ α).result = r := rfl

@[simp] theorem events_ofExcept (r : Except Error α) : (ofExcept r : Traced τ α).events = [] := rfl

@[simp] theorem result_mapEvents (f : τ → σ) (x : Traced τ α) :
    (x.mapEvents f).result = x.result := rfl

@[simp] theorem events_mapEvents (f : τ → σ) (x : Traced τ α) :
    (x.mapEvents f).events = x.events.map f := rfl

@[simp] theorem result_bind (x : Traced τ α) (f : α → Traced τ β) :
    (x >>= f).result = x.result >>= fun a => (f a).result := by
  change (andThen x f).result = _
  unfold andThen
  cases x.result <;> rfl

/-- After a value the second computation goes on. -/
theorem bind_of_ok {x : Traced τ α} {a : α} (h : x.result = .ok a) (f : α → Traced τ β) :
    x >>= f = ⟨x.events ++ (f a).events, (f a).result⟩ := by
  change andThen x f = _
  rw [andThen, h]

theorem bind_of_error {x : Traced τ α} {e : Error} (h : x.result = .error e)
    (f : α → Traced τ β) : x >>= f = ⟨x.events, .error e⟩ := by
  change andThen x f = _
  rw [andThen, h]

/-- The events of the second computation come after those of the first, if it gets that far. -/
theorem events_bind (x : Traced τ α) (f : α → Traced τ β) :
    (x >>= f).events = x.events ++ match x.result with
      | .ok a => (f a).events
      | .error _ => [] := by
  change (andThen x f).events = _
  unfold andThen
  cases x.result <;> simp

theorem mem_events_bind {x : Traced τ α} {f : α → Traced τ β} {e : τ} (h : e ∈ (x >>= f).events) :
    e ∈ x.events ∨ ∃ a, e ∈ (f a).events := by
  rw [events_bind, List.mem_append] at h
  refine h.imp_right fun h => ?_
  cases hx : x.result with
  | ok a => exact ⟨a, by simpa [hx] using h⟩
  | error _ => simp [hx] at h

theorem result_mapM (f : α → Traced τ β) (xs : List α) :
    (xs.mapM f).result = xs.mapM fun x => (f x).result := by
  induction xs with
  | nil => rfl
  | cons x xs ih =>
    rw [List.mapM_cons, List.mapM_cons, result_bind]
    simp only [result_bind, result_pure, ih]
    rfl

theorem events_mapM {f : α → Traced τ β} {xs : List α} {ys : List β}
    (h : (xs.mapM f).result = .ok ys) : (xs.mapM f).events = xs.flatMap fun x => (f x).events := by
  induction xs generalizing ys with
  | nil => rfl
  | cons x xs ih =>
    rw [List.mapM_cons, result_bind] at h
    obtain ⟨y, hy, h⟩ := bind_eq_ok_iff.mp h
    rw [result_bind] at h
    obtain ⟨rest, hrest, -⟩ := bind_eq_ok_iff.mp h
    rw [List.mapM_cons, bind_of_ok hy, bind_of_ok hrest, List.flatMap_cons, ← ih hrest]
    simp

end Traced

end Gleaner
