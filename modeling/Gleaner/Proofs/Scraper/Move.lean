import Gleaner.Proofs.Traced
import Gleaner.Scraper.Session

/-! # What a step of a session does

A step of a session is one of few moves (`Session.step_moves`): it stores scrapers and makes requests,
injects a registry, or changes the settings, the registry of the process or an injected one. What a
step leaves alone follows from the moves. -/

namespace Gleaner

namespace Session

namespace Step

/-- Whether a step uses the scraper of a name or changes the registry that was injected under it. -/
def actsOn (id : String) : Step → Bool
  | .act (.stored other) _ => other == id
  | .editInjected other _ => other == id
  | _ => false

/-- Whether a step changes the registry of the process: one that is there for it, with filters that
can be called. -/
def changesShared : Step → Bool
  | .replaceShared table => table.firstBad?.isNone
  | .registerShared _ (.other ..) => false
  | .registerShared .. => true
  | _ => false

/-- Whether a step changes the settings. -/
def assigns : Step → Bool
  | .assign _ => true
  | _ => false

/-- Whether a step makes a scraper of a name, be it because it looks for one that is not there. -/
def renews (id : String) (s : Session) : Step → Bool
  | .make other _ _ => other == id
  | .act (.stored other) _ => id == standardId && (s.scrapers.lookup other).isNone
  | _ => false

end Step

/-- The registry at a place is the one that was injected under a name, and under no other. -/
structure Owns (s : Session) (id : String) (place : Nat) (r : Registry) : Prop where
  registry : s.registries[place]? = some r
  name : ∀ other, s.injected.lookup other = some place ↔ other = id

/-- All injected registries are there. -/
def Sound (s : Session) : Prop :=
  ∀ id place, s.injected.lookup id = some place → place < s.registries.length

/-- Two sessions over one site with one way of access and the same settings. -/
structure Same (s s' : Session) : Prop where
  site : s'.site = s.site
  stages : s'.stages = s.stages
  access : s'.access = s.access
  settings : s'.ambient.settings = s.ambient.settings

/-- What a step leaves that has nothing to do with the scraper of a name. -/
structure Leaves (id : String) (s s' : Session) : Prop where
  scraper : s'.scrapers.lookup id = s.scrapers.lookup id
  owns : ∀ {place : Nat} {r : Registry}, s.Owns id place r → s'.Owns id place r

/-- The session after some steps. -/
def after (s : Session) (steps : List Step) : Session := steps.foldl (fun s x => (s.step x).1) s

variable {s s' : Session} {id : String} {x : Step}

theorem Same.refl (s : Session) : Same s s := ⟨rfl, rfl, rfl, rfl⟩

theorem Same.symm (h : Same s s') : Same s' s :=
  ⟨h.site.symm, h.stages.symm, h.access.symm, h.settings.symm⟩

theorem Same.trans {s₁ s₂ s₃ : Session} (h : Same s₁ s₂) (h' : Same s₂ s₃) : Same s₁ s₃ :=
  ⟨h'.site.trans h.site, h'.stages.trans h.stages, h'.access.trans h.access,
    h'.settings.trans h.settings⟩

theorem Leaves.refl (id : String) (s : Session) : Leaves id s s := ⟨rfl, fun h => h⟩

section Bindings

variable {α : Type}

theorem lookup_bind_self (name : String) (a : α) (bindings : List (String × α)) :
    (bind name a bindings).lookup name = some a := by
  simp [bind]

theorem lookup_bind_of_ne {name other : String} (h : other ≠ name) (a : α)
    (bindings : List (String × α)) :
    (bind name a bindings).lookup other = bindings.lookup other := by
  rw [bind, List.lookup_cons, beq_false_of_ne h]
  dsimp only
  induction bindings with
  | nil => rfl
  | cons b bindings ih =>
    by_cases hb : b.1 = name
    · rw [List.filter_cons_of_neg (by simpa using hb), ih, List.lookup_cons,
        beq_false_of_ne (hb ▸ h)]
    · rw [List.filter_cons_of_pos (by simpa using hb), List.lookup_cons, List.lookup_cons, ih]

end Bindings

/-- The ways in which a step takes a session on: it may store scrapers and make requests, inject a
registry for a new scraper, change the settings or the registry of the process, or change an injected
registry. -/
inductive Moves (s : Session) (x : Step) : Session → Prop where
  | uses {scrapers : List (String × Held)} {traffic : Http.Traffic} : x.changesShared = false →
    (∀ id, x.actsOn id = false → x.renews id s = false →
      scrapers.lookup id = s.scrapers.lookup id) →
    Moves s x { s with scrapers, traffic }
  | injects {name : String} {r : Registry} {scrapers : List (String × Held)} :
    x.changesShared = false →
    (∀ id, x.renews id s = false → id ≠ name ∧ scrapers.lookup id = s.scrapers.lookup id) →
    Moves s x { s with
      scrapers, registries := s.registries ++ [r]
      injected := bind name s.registries.length s.injected }
  | assigns {settings : Settings} : x.changesShared = false → x.assigns = true →
    Moves s x { s with ambient.settings := settings }
  | changesShared {r : Registry} : x.changesShared = true → Moves s x { s with ambient.shared := r }
  | edits {name : String} {place : Nat} {r : Registry} : x.changesShared = false →
    (∀ id, x.actsOn id = false → id ≠ name) → s.injected.lookup name = some place →
    Moves s x { s with registries := s.registries.set place r }

section Steps

theorem Moves.rest (hx : x.changesShared = false) : Moves s x s :=
  @Moves.uses s x s.scrapers s.traffic hx fun _ _ _ => rfl

theorem hold_cases (s : Session) (id : String) (config : Config) (fallback : Option Nat) :
    (∃ held, (s.hold id config fallback).1 = { s with scrapers := bind id held s.scrapers }) ∨
      (s.hold id config fallback).1 = s := by
  unfold hold
  dsimp only
  split
  · exact .inl ⟨_, rfl⟩
  · exact .inr rfl

theorem hold_moves (s : Session) (id : String) (config : Config) (injection : Injection)
    (fallback : Option Nat) :
    Moves s (.make id config injection) (s.hold id config fallback).1 := by
  rcases hold_cases s id config fallback with ⟨held, heq⟩ | heq
  · rw [heq]
    refine @Moves.uses s _ _ s.traffic rfl fun other _ hrenews => ?_
    exact lookup_bind_of_ne (Ne.symm (by simpa [Step.renews] using hrenews)) held s.scrapers
  · rw [heq]
    exact .rest rfl

/-- To have a scraper do something is to store it with other filters, or it makes requests. -/
theorem act_cases (s : Session) (target : Target) (action : Action) :
    (∃ traffic, (s.act target action).1 = { (s.scraperOf target).1 with traffic }) ∨
      ∃ name held, (s.scraperOf target).2.1 = some name ∧
        (s.act target action).1 = { (s.scraperOf target).1 with
          scrapers := bind name held (s.scraperOf target).1.scrapers } := by
  unfold act
  generalize s.scraperOf target = found
  obtain ⟨s', name, held⟩ := found
  cases action with
  | setFilters table =>
    dsimp only
    split
    next => exact .inr ⟨_, _, rfl, rfl⟩
    next => exact .inl ⟨s'.traffic, rfl⟩
  | _ => exact .inl ⟨_, rfl⟩

/-- To look for a scraper changes at most what is stored under a name that the step renews, and a step
uses no other scraper than it acts on or renews. -/
theorem scraperOf_cases (s : Session) (target : Target) (action : Action) :
    ∃ scrapers name held, s.scraperOf target = ({ s with scrapers }, name, held) ∧
      ∀ id, (Step.act target action).actsOn id = false →
        (Step.act target action).renews id s = false →
        name ≠ some id ∧ scrapers.lookup id = s.scrapers.lookup id := by
  cases target with
  | fresh => exact ⟨s.scrapers, none, _, rfl, fun id _ _ => ⟨(Option.some_ne_none id).symm, rfl⟩⟩
  | stored other =>
    cases hfound : s.scrapers.lookup other with
    | some held =>
      refine ⟨s.scrapers, some other, held, ?_, fun id hacts _ => ⟨?_, rfl⟩⟩
      · rw [scraperOf, hfound]
      · simpa [Step.actsOn] using hacts
    | none =>
      -- The standard scraper is made for the step, so its name is renewed.
      let standard : Held := ⟨.standard s.ambient s.fetcher, none⟩
      refine ⟨bind standardId standard s.scrapers, some standardId, standard, ?_,
        fun id _ hrenews => ?_⟩
      · rw [scraperOf, hfound]
      · have hne : id ≠ standardId := by simpa [Step.renews, hfound] using hrenews
        exact ⟨fun heq => hne (Option.some.inj heq).symm, lookup_bind_of_ne hne _ s.scrapers⟩

theorem act_moves (s : Session) (target : Target) (action : Action) :
    Moves s (.act target action) (s.act target action).1 := by
  obtain ⟨scrapers, name, held, hfound, hkeeps⟩ := scraperOf_cases s target action
  have hcases := act_cases s target action
  rw [hfound] at hcases
  rcases hcases with ⟨traffic, heq⟩ | ⟨name', held', hname, heq⟩
  · rw [heq]
    exact .uses rfl fun id hacts hrenews => (hkeeps id hacts hrenews).2
  · rw [heq]
    refine @Moves.uses s _ _ s.traffic rfl fun id hacts hrenews => ?_
    obtain ⟨hne, hlookup⟩ := hkeeps id hacts hrenews
    have hne' : id ≠ name' := by
      rintro rfl
      exact hne hname
    exact (lookup_bind_of_ne hne' held' scrapers).trans hlookup

theorem make_table_moves (s : Session) (id : String) (config : Config) (t : FilterTable) :
    Moves s (.make id config (.table t)) (s.make id config (.table t)).1 := by
  unfold make
  dsimp only
  split
  · exact .rest rfl
  next r _ =>
    have hne {other : String}
        (hrenews : (Step.make id config (.table t)).renews other s = false) : other ≠ id :=
      Ne.symm (by simpa [Step.renews] using hrenews)
    rcases hold_cases { s with
        registries := s.registries ++ [r], injected := bind id s.registries.length s.injected }
      id config s.registries.length with ⟨held, heq⟩ | heq
    · rw [heq]
      exact .injects rfl fun other hrenews =>
        ⟨hne hrenews, lookup_bind_of_ne (hne hrenews) held s.scrapers⟩
    · rw [heq]
      exact .injects rfl fun other hrenews => ⟨hne hrenews, rfl⟩

theorem withShared_moves {t : Traced Log.Entry Registry}
    (h : x.changesShared = true ↔ ∃ r, t.result = .ok r) : Moves s x (s.withShared t).1 := by
  unfold withShared
  split
  next r hr => exact .changesShared (h.mpr ⟨r, hr⟩)
  next e he =>
    refine .rest (Bool.eq_false_iff.mpr fun hx => ?_)
    obtain ⟨r, hr⟩ := h.mp hx
    rw [he] at hr
    cases hr

theorem editInjected_moves (s : Session) (id : String) (e : RegistryEdit) :
    Moves s (.editInjected id e) (s.editInjected id e).1 := by
  unfold editInjected
  split
  · exact .rest rfl
  next place hplace =>
  split
  · exact .rest rfl
  next r hr =>
  dsimp only
  split
  · refine .edits rfl (fun other hacts => Ne.symm ?_) hplace
    simpa [Step.actsOn] using hacts
  · exact .rest rfl

theorem replace_isOk_iff (r : Registry) (table : FilterTable) :
    (Step.replaceShared table).changesShared = true ↔ ∃ r', (r.replace table).result = .ok r' := by
  change table.firstBad?.isNone = true ↔ _
  unfold Registry.replace
  cases table.firstBad? with
  | none => exact ⟨fun _ => ⟨_, rfl⟩, fun _ => rfl⟩
  | some name =>
    refine ⟨fun h => absurd h Bool.false_ne_true, ?_⟩
    rintro ⟨_, ⟨⟩⟩

theorem register_isOk_iff (r : Registry) (name : String) (c : Candidate) :
    (Step.registerShared name c).changesShared = true ↔ ∃ r', r.register name c = .ok r' := by
  cases c with
  | filter | nothing => exact ⟨fun _ => ⟨_, rfl⟩, fun _ => rfl⟩
  | other =>
    refine ⟨fun h => absurd h Bool.false_ne_true, ?_⟩
    rintro ⟨_, ⟨⟩⟩

theorem step_moves (s : Session) (x : Step) : Moves s x (s.step x).1 := by
  cases x with
  | make id config injection =>
    cases injection with
    | none => exact hold_moves s id config .none none
    | sharedWith other => exact hold_moves s id config (.sharedWith other) (s.injected.lookup other)
    | table t => exact make_table_moves s id config t
  | assign table => exact .assigns rfl rfl
  | replaceShared table => exact withShared_moves (replace_isOk_iff s.ambient.shared table)
  | registerShared name c => exact withShared_moves (register_isOk_iff s.ambient.shared name c)
  | editInjected id e => exact editInjected_moves s id e
  | fetch url => exact .uses rfl fun _ _ _ => rfl
  | act target action => exact act_moves s target action

/-! ## What a step leaves -/

theorem Moves.same (h : Moves s x s') (hx : x.assigns = false) : Same s s' := by
  cases h with
  | assigns _ hassigns => simp [hx] at hassigns
  | uses | injects | changesShared | edits => exact ⟨rfl, rfl, rfl, rfl⟩

theorem Moves.shared (h : Moves s x s') (hx : x.changesShared = false) :
    s'.ambient.shared = s.ambient.shared := by
  cases h with
  | changesShared hchanges => simp [hx] at hchanges
  | uses | injects | assigns | edits => rfl

theorem Moves.sound (h : Moves s x s') (hs : s.Sound) : s'.Sound := by
  cases h with
  | @injects name r scrapers =>
    intro id place hplace
    change place < (s.registries ++ [r]).length
    rw [List.length_append, List.length_singleton]
    by_cases hid : id = name
    · change (bind name s.registries.length s.injected).lookup id = some place at hplace
      rw [hid, lookup_bind_self] at hplace
      cases hplace
      exact Nat.lt_succ_self _
    · change (bind name s.registries.length s.injected).lookup id = some place at hplace
      rw [lookup_bind_of_ne hid] at hplace
      exact Nat.lt_succ_of_lt (hs id place hplace)
  | @edits name place r =>
    intro id place' hplace
    change place' < (s.registries.set place r).length
    rw [List.length_set]
    exact hs id place' hplace
  | uses | assigns | changesShared => exact hs

/-- **A step that does not act on a scraper leaves it**, with its registry. -/
theorem Moves.leaves (h : Moves s x s') (hacts : x.actsOn id = false)
    (hrenews : x.renews id s = false) : Leaves id s s' := by
  cases h with
  | uses _ hscrapers =>
    exact ⟨hscrapers id hacts hrenews, fun howns => ⟨howns.registry, howns.name⟩⟩
  | @injects name r scrapers _ hname =>
    obtain ⟨hne, hscrapers⟩ := hname id hrenews
    refine ⟨hscrapers, fun {place r'} howns => ?_⟩
    have hlt : place < s.registries.length := (List.getElem?_eq_some_iff.mp howns.registry).1
    refine ⟨?_, fun other => ?_⟩
    · change (s.registries ++ [r])[place]? = some r'
      rw [List.getElem?_append_left hlt]
      exact howns.registry
    · change (bind name s.registries.length s.injected).lookup other = some place ↔ other = id
      by_cases hother : other = name
      · rw [hother, lookup_bind_self, Option.some_inj]
        exact ⟨fun heq => absurd heq (Nat.ne_of_gt hlt), fun heq => absurd heq.symm hne⟩
      · rw [lookup_bind_of_ne hother]
        exact howns.name other
  | @edits name place r _ hname hplace =>
    refine ⟨rfl, fun {place' r'} howns => ⟨?_, howns.name⟩⟩
    have hne : place ≠ place' := by
      rintro rfl
      exact hname id hacts ((howns.name name).mp hplace).symm
    change (s.registries.set place r)[place']? = some r'
    rw [List.getElem?_set_ne hne]
    exact howns.registry
  | assigns | changesShared => exact ⟨rfl, fun howns => ⟨howns.registry, howns.name⟩⟩

/-! ## Many steps -/

theorem after_append (s : Session) (steps more : List Step) :
    s.after (steps ++ more) = (s.after steps).after more := List.foldl_append

theorem same_after {steps : List Step} (h : ∀ x ∈ steps, x.assigns = false) (s : Session) :
    Same s (s.after steps) := by
  induction steps generalizing s with
  | nil => exact .refl s
  | cons x steps ih =>
    obtain ⟨hx, hsteps⟩ := List.forall_mem_cons.mp h
    exact ((step_moves s x).same hx).trans (ih hsteps (s.step x).1)

theorem sound_after (hs : s.Sound) (steps : List Step) : (s.after steps).Sound := by
  induction steps generalizing s with
  | nil => exact hs
  | cons x steps ih => exact ih ((step_moves s x).sound hs)

end Steps

end Session

end Gleaner
