import Gleaner.Proofs.Scraper.Move

/-! # Scrapers do not interfere

What a scraper answers in a session depends on its own steps, on the steps that change its registry,
and, if it falls back on the registry of the process, on those that change that one. All other steps
can be left out. The proof keeps a session and a shorter one alike for the scraper, step by step: a
step that is left out leaves everything that the scraper depends on (`Session.Moves.leaves`), and a
step that is kept does the same in both (`Session.Alike.step`). The main statement is
`Session.scrapers_do_not_interfere`. -/

namespace Gleaner

namespace Session

/-- Whether an action makes no request. -/
def Action.isLocal : Action → Bool
  | .setFilters _ | .hasFilter _ | .find .. => true
  | _ => false

namespace Step

/-- Whether a step uses the scraper of a name without a request. -/
def asks (id : String) : Step → Bool
  | .act (.stored other) action => other == id && action.isLocal
  | _ => false

/-- Whether a step is there to change the registry of the process. -/
def isForShared : Step → Bool
  | .replaceShared _ | .registerShared .. => true
  | _ => false

end Step

/-- What the scraper of a name answers in some steps, with its log. -/
def answers (s : Session) (id : String) (steps : List Step) : List (Traced Log.Entry Value) :=
  (steps.zip (s.run steps)).filterMap fun x => if x.1.asks id then some x.2.2 else none

/-- No step makes a scraper of a name. -/
def Keeps (id : String) : Session → List Step → Prop
  | _, [] => True
  | s, x :: xs => x.renews id s = false ∧ Keeps id (s.step x).1 xs

/-- In two sessions a scraper falls back on the same registry: the one of the process, or one that it
was made with. -/
inductive FallsBack (id : String) (s s' : Session) : Option Nat → Option Nat → Prop where
  | shared : s'.ambient.shared = s.ambient.shared → FallsBack id s s' none none
  | injected {place place' : Nat} {r : Registry} : s.Owns id place r → s'.Owns id place' r →
    FallsBack id s s' (some place) (some place')

/-- Two sessions are alike for the scraper of a name. -/
structure Alike (id : String) (fallback fallback' : Option Nat) (s s' : Session) : Prop where
  same : Same s s'
  scraper : ∃ scraper, s.scrapers.lookup id = some ⟨scraper, fallback⟩ ∧
    s'.scrapers.lookup id = some ⟨scraper, fallback'⟩
  fallback : FallsBack id s s' fallback fallback'

variable {s s' : Session} {id : String} {x : Step}

theorem withShared_isOk_iff (s : Session) (t : Traced Log.Entry Registry) :
    (∃ v, (s.withShared t).2.result = .ok v) ↔ ∃ r, t.result = .ok r := by
  unfold withShared
  cases t.result with
  | ok r => exact ⟨fun _ => ⟨r, rfl⟩, fun _ => ⟨_, rfl⟩⟩
  | error e => constructor <;> rintro ⟨_, ⟨⟩⟩

/-- The registry of the process changes by the steps that are there for it and succeed. -/
theorem changesShared_iff (s : Session) (x : Step) :
    x.changesShared = true ↔ x.isForShared = true ∧ ∃ v, (s.step x).2.result = .ok v := by
  cases x with
  | replaceShared table =>
    rw [replace_isOk_iff s.ambient.shared table]
    change _ ↔ true = true ∧ ∃ v, (s.withShared (s.ambient.shared.replace table)).2.result = .ok v
    rw [withShared_isOk_iff, eq_self, true_and]
  | registerShared name c =>
    rw [register_isOk_iff s.ambient.shared name c]
    change _ ↔ true = true ∧
      ∃ v, (s.withShared (.ofExcept (s.ambient.shared.register name c))).2.result = .ok v
    rw [withShared_isOk_iff, eq_self, true_and]
    rfl
  | make | assign | editInjected | fetch | act => exact ⟨nofun, nofun⟩

section Alike

variable {fallback fallback' : Option Nat}

theorem Alike.shared (h : Alike id fallback fallback' s s') (hnone : fallback = none) :
    s'.ambient.shared = s.ambient.shared := by
  cases h.fallback with
  | shared hshared => exact hshared
  | injected => cases hnone

/-- What leaves a scraper keeps two sessions alike for it. -/
theorem Alike.leaves (h : Alike id fallback fallback' s s') {t t' : Session} (hsame : Same t t')
    (hleaves : Leaves id s t) (hleaves' : Leaves id s' t')
    (hshared : fallback = none → t'.ambient.shared = t.ambient.shared) :
    Alike id fallback fallback' t t' := by
  obtain ⟨scraper, hscraper, hscraper'⟩ := h.scraper
  refine ⟨hsame, ⟨scraper, ?_, ?_⟩, ?_⟩
  · rw [hleaves.scraper, hscraper]
  · rw [hleaves'.scraper, hscraper']
  · cases h.fallback with
    | shared => exact .shared (hshared rfl)
    | injected howns howns' => exact .injected (hleaves.owns howns) (hleaves'.owns howns')

/-- To store the scraper anew keeps them alike, too. -/
theorem Alike.bind (h : Alike id fallback fallback' s s') (scraper : Scraper Http.Traffic) :
    Alike id fallback fallback' { s with scrapers := Session.bind id ⟨scraper, fallback⟩ s.scrapers }
      { s' with scrapers := Session.bind id ⟨scraper, fallback'⟩ s'.scrapers } := by
  refine ⟨⟨h.same.site, h.same.stages, h.same.access, h.same.settings⟩,
    ⟨scraper, lookup_bind_self .., lookup_bind_self ..⟩, ?_⟩
  cases h.fallback with
  | shared hshared => exact .shared hshared
  | injected howns howns' =>
    exact .injected ⟨howns.registry, howns.name⟩ ⟨howns'.registry, howns'.name⟩

theorem Alike.current (h : Alike id fallback fallback' s s') (scraper : Scraper Http.Traffic) :
    s'.current ⟨scraper, fallback'⟩ = s.current ⟨scraper, fallback⟩ := by
  unfold Session.current
  cases h.fallback with
  | shared => rfl
  | injected howns howns' =>
    dsimp only [Option.bind_some]
    rw [howns.registry, howns'.registry]

theorem Alike.chain (h : Alike id fallback fallback' s s') (scraper : Scraper Http.Traffic) :
    (s.current ⟨scraper, fallback⟩).chain s'.ambient =
      (s.current ⟨scraper, fallback⟩).chain s.ambient := by
  unfold Session.current Scraper.chain
  cases h.fallback with
  | shared hshared =>
    dsimp only [Option.bind_none, Option.getD_none]
    rw [hshared]
  | injected howns =>
    dsimp only [Option.bind_some]
    rw [howns.registry]
    rfl

theorem find_of_settings {σ : Type} {scraper : Scraper σ} {a a' : Ambient}
    (hsettings : a'.settings = a.settings) (hchain : scraper.chain a' = scraper.chain a)
    (source : Source) (scope : Option String) (fields : Option FieldMap) :
    scraper.find a' source scope fields = scraper.find a source scope fields := by
  unfold Scraper.find Scraper.scanner Scraper.place Scraper.parse Ambient.parserName
  rw [hsettings, hchain]

theorem read_of_settings {a a' : Ambient} (hsettings : a'.settings = a.settings) (given : Given) :
    given.read a' = given.read a := by
  unfold Given.read Ambient.parserName
  rw [hsettings]

/-- A scraper that makes no request does the same in both sessions. -/
theorem Alike.use (h : Alike id fallback fallback' s s') (scraper : Scraper Http.Traffic)
    {action : Action} (hlocal : action.isLocal = true) :
    (s'.use (s'.current ⟨scraper, fallback'⟩) action).2 =
      (s.use (s.current ⟨scraper, fallback⟩) action).2 := by
  rw [h.current scraper]
  cases action with
  | setFilters => rfl
  | hasFilter name =>
    dsimp only [Session.use]
    rw [h.chain scraper]
  | find given scope fields =>
    dsimp only [Session.use]
    rw [read_of_settings h.same.settings]
    simp only [find_of_settings h.same.settings (h.chain scraper)]
  | findUrl | crawl | crawlUrl | crawlPages => cases hlocal

theorem act_setFilters {held : Held} (hfound : s.scrapers.lookup id = some held)
    (table : FilterTable) :
    s.act (.stored id) (.setFilters table) = match (held.scraper.setFilters table).result with
      | .ok scraper => ({ s with scrapers := bind id { held with scraper } s.scrapers },
        ⟨(held.scraper.setFilters table).events, .ok .none⟩)
      | .error e => (s, ⟨(held.scraper.setFilters table).events, .error e⟩) := by
  unfold act scraperOf
  dsimp only
  rw [hfound]
  dsimp only
  cases (held.scraper.setFilters table).result <;> rfl

theorem act_use {held : Held} (hfound : s.scrapers.lookup id = some held) {action : Action}
    (haction : ∀ table, action ≠ .setFilters table) :
    s.act (.stored id) action = ({ s with traffic := (s.use (s.current held) action).1 },
      (s.use (s.current held) action).2) := by
  unfold act scraperOf
  dsimp only
  rw [hfound]
  dsimp only
  cases action with
  | setFilters table => exact absurd rfl (haction table)
  | _ => rfl

/-- **What a scraper does keeps two sessions alike for it**, and without a request it does the same in
both. -/
theorem Alike.act (h : Alike id fallback fallback' s s') (action : Action) :
    Alike id fallback fallback' (s.act (.stored id) action).1 (s'.act (.stored id) action).1 ∧
      (action.isLocal = true →
        (s'.act (.stored id) action).2 = (s.act (.stored id) action).2) := by
  obtain ⟨scraper, hscraper, hscraper'⟩ := h.scraper
  by_cases haction : ∃ table, action = .setFilters table
  · obtain ⟨table, rfl⟩ := haction
    rw [act_setFilters hscraper, act_setFilters hscraper']
    dsimp only
    cases (scraper.setFilters table).result with
    | ok changed => exact ⟨h.bind changed, fun _ => rfl⟩
    | error e => exact ⟨h, fun _ => rfl⟩
  · have hne : ∀ table, action ≠ .setFilters table := fun table heq => haction ⟨table, heq⟩
    rw [act_use hscraper hne, act_use hscraper' hne]
    refine ⟨h.leaves ⟨h.same.site, h.same.stages, h.same.access, h.same.settings⟩ ⟨rfl, ?_⟩ ⟨rfl, ?_⟩ ?_,
      h.use scraper⟩
    · exact fun howns => ⟨howns.registry, howns.name⟩
    · exact fun howns => ⟨howns.registry, howns.name⟩
    · exact h.shared

theorem editInjected_cases (s : Session) (id : String) (e : RegistryEdit) :
    ∃ registries, (s.editInjected id e).1 = { s with registries } := by
  unfold editInjected
  split
  · exact ⟨s.registries, rfl⟩
  split
  · exact ⟨s.registries, rfl⟩
  dsimp only
  split
  · exact ⟨_, rfl⟩
  · exact ⟨s.registries, rfl⟩

theorem editInjected_of_owns {place : Nat} {r : Registry} (h : s.Owns id place r)
    (e : RegistryEdit) :
    (s.editInjected id e).1 = match (Registries.change r e).result with
      | .ok (changed, _) => { s with registries := s.registries.set place changed }
      | .error _ => s := by
  unfold editInjected
  rw [(h.name id).mpr rfl]
  dsimp only
  rw [h.registry]
  dsimp only
  cases (Registries.change r e).result <;> rfl

theorem Owns.set {place : Nat} {r : Registry} (h : s.Owns id place r) (changed : Registry) :
    Owns { s with registries := s.registries.set place changed } id place changed :=
  ⟨List.getElem?_set_self (List.getElem?_eq_some_iff.mp h.registry).1, h.name⟩

/-- So does a change of its registry. -/
theorem Alike.edit (h : Alike id fallback fallback' s s') (e : RegistryEdit) :
    Alike id fallback fallback' (s.editInjected id e).1 (s'.editInjected id e).1 := by
  obtain ⟨registries, heq⟩ := editInjected_cases s id e
  obtain ⟨registries', heq'⟩ := editInjected_cases s' id e
  refine ⟨?_, ?_, ?_⟩
  · rw [heq, heq']
    exact ⟨h.same.site, h.same.stages, h.same.access, h.same.settings⟩
  · rw [heq, heq']
    exact h.scraper
  · cases h.fallback with
    | shared hshared =>
      rw [heq, heq']
      exact .shared hshared
    | @injected place place' r howns howns' =>
      rw [editInjected_of_owns howns, editInjected_of_owns howns']
      cases (Registries.change r e).result with
      | ok changed => exact .injected (howns.set changed.1) (howns'.set changed.1)
      | error => exact .injected howns howns'

/-- **A step that acts on a scraper keeps two sessions alike for it**, and the scraper answers the same
in both. -/
theorem Alike.step (h : Alike id fallback fallback' s s') (hacts : x.actsOn id = true) :
    Alike id fallback fallback' (s.step x).1 (s'.step x).1 ∧
      (x.asks id = true → (s'.step x).2 = (s.step x).2) := by
  cases x with
  | act target action =>
    cases target with
    | fresh => cases hacts
    | stored other =>
      obtain rfl : other = id := by simpa [Step.actsOn] using hacts
      refine (h.act action).imp_right fun hanswers hasks => hanswers ?_
      simpa [Step.asks] using hasks
  | editInjected other e =>
    obtain rfl : other = id := by simpa [Step.actsOn] using hacts
    refine ⟨h.edit e, ?_⟩
    rintro ⟨⟩
  | make | assign | replaceShared | registerShared | fetch => cases hacts

theorem Step.actsOn_of_asks (h : x.asks id = true) : x.actsOn id = true := by
  cases x with
  | act target action =>
    cases target with
    | fresh => cases h
    | stored other =>
      rw [Step.asks, Bool.and_eq_true] at h
      exact h.1
  | make | assign | replaceShared | registerShared | editInjected | fetch => cases h

theorem Step.of_changesShared (h : x.changesShared = true) (id : String) (s : Session) :
    x.actsOn id = false ∧ x.renews id s = false ∧ x.assigns = false := by
  cases x with
  | replaceShared | registerShared => exact ⟨rfl, rfl, rfl⟩
  | make | assign | editInjected | fetch | act => cases h

theorem withShared_shared (hshared : s'.ambient.shared = s.ambient.shared)
    (t : Traced Log.Entry Registry) :
    (s'.withShared t).1.ambient.shared = (s.withShared t).1.ambient.shared := by
  unfold withShared
  cases t.result with
  | ok => rfl
  | error => exact hshared

/-- A change of the registry of the process is the same wherever that registry is the same. -/
theorem shared_step (hx : x.changesShared = true)
    (hshared : s'.ambient.shared = s.ambient.shared) :
    (s'.step x).1.ambient.shared = (s.step x).1.ambient.shared := by
  cases x with
  | replaceShared table =>
    change (s'.withShared (s'.ambient.shared.replace table)).1.ambient.shared = _
    rw [hshared]
    exact withShared_shared hshared _
  | registerShared name c =>
    change (s'.withShared (.ofExcept (s'.ambient.shared.register name c))).1.ambient.shared = _
    rw [hshared]
    exact withShared_shared hshared _
  | make | assign | editInjected | fetch | act => cases hx

end Alike

section Runs

variable {fallback fallback' : Option Nat}

theorem answers_cons (s : Session) (id : String) (x : Step) (xs : List Step) :
    s.answers id (x :: xs) =
      (if x.asks id then [(s.step x).2] else []) ++ (s.step x).1.answers id xs := by
  unfold answers
  rw [run, List.zip_cons_cons, List.filterMap_cons]
  cases x.asks id <;> rfl

/-- **What a scraper answers is the same in two sessions that are alike for it**, if one leaves out the
steps that do not act on it and, if it falls back on the registry of the process, do not change
that. -/
theorem Alike.answers (h : Alike id fallback fallback' s s') {steps : List Step}
    (hsettings : ∀ x ∈ steps, x.assigns = false) (hkeeps : Keeps id s steps) :
    s'.answers id (steps.filter fun x => x.actsOn id || fallback.isNone && x.changesShared) =
      s.answers id steps := by
  induction steps generalizing s s' with
  | nil => rfl
  | cons x steps ih =>
    obtain ⟨hassigns, hsettings⟩ := List.forall_mem_cons.mp hsettings
    obtain ⟨hrenews, hkeeps⟩ := hkeeps
    cases hacts : x.actsOn id with
    | true =>
      obtain ⟨hstep, hanswers⟩ := h.step hacts
      rw [List.filter_cons_of_pos (by rw [hacts]; rfl), answers_cons, answers_cons,
        ih hstep hsettings hkeeps]
      cases hasks : x.asks id with
      | true => rw [hanswers hasks]
      | false => rfl
    | false =>
      have hasks : x.asks id = false :=
        Bool.eq_false_iff.mpr fun hasks => by simp [Step.actsOn_of_asks hasks] at hacts
      have hmoves := step_moves s x
      have hleaves := hmoves.leaves hacts hrenews
      have hsame := hmoves.same hassigns
      cases hchanges : fallback.isNone && x.changesShared with
      | true =>
        rw [Bool.and_eq_true] at hchanges
        obtain ⟨hacts', hrenews', hassigns'⟩ := Step.of_changesShared hchanges.2 id s'
        have hmoves' := step_moves s' x
        have hstep : Alike id fallback fallback' (s.step x).1 (s'.step x).1 :=
          h.leaves ((hsame.symm.trans h.same).trans (hmoves'.same hassigns')) hleaves
            (hmoves'.leaves hacts' hrenews') fun hnone => shared_step hchanges.2 (h.shared hnone)
        rw [List.filter_cons_of_pos (by rw [hacts, hchanges.1, hchanges.2]; rfl), answers_cons,
          answers_cons, ih hstep hsettings hkeeps, hasks]
        rfl
      | false =>
        have hstep : Alike id fallback fallback' (s.step x).1 s' := by
          refine h.leaves (hsame.symm.trans h.same) hleaves (.refl id s') fun hnone => ?_
          rw [hnone, Option.isNone_none, Bool.true_and] at hchanges
          rw [hmoves.shared hchanges]
          exact h.shared hnone
        rw [List.filter_cons_of_neg (by simp [hacts, hchanges]), answers_cons,
          ih hstep hsettings hkeeps, hasks]
        rfl

/-! ## Before a scraper is made -/

/-- The registry of the process is what the changes made of it. -/
theorem shared_after (hshared : s'.ambient.shared = s.ambient.shared) (steps : List Step) :
    (s'.after (steps.filter (·.changesShared))).ambient.shared =
      (s.after steps).ambient.shared := by
  induction steps generalizing s s' with
  | nil => exact hshared
  | cons x steps ih =>
    cases hx : x.changesShared with
    | true =>
      rw [List.filter_cons_of_pos hx]
      exact ih (shared_step hx hshared)
    | false =>
      rw [List.filter_cons_of_neg (by simp [hx])]
      exact ih (hshared.trans ((step_moves s x).shared hx).symm)

theorem Same.build (h : Same s s') (config : Config) :
    Scraper.build s'.ambient config s'.fetcher = Scraper.build s.ambient config s.fetcher := by
  unfold Scraper.build Scraper.ofRegistry fetcher
  rw [h.site, h.access, h.settings]

theorem hold_of_build {config : Config} {scraper : Scraper Http.Traffic}
    (h : (Scraper.build s.ambient { config with fallback := none } s.fetcher).result = .ok scraper)
    (id : String) (fallback : Option Nat) :
    (s.hold id config fallback).1 = { s with scrapers := bind id ⟨scraper, fallback⟩ s.scrapers } := by
  unfold hold
  dsimp only
  rw [h]

theorem exists_build_of_hold {config : Config} {v : Value} (id : String) (fallback : Option Nat)
    (h : (s.hold id config fallback).2.result = .ok v) :
    ∃ scraper, (Scraper.build s.ambient { config with fallback := none } s.fetcher).result =
      .ok scraper := by
  unfold hold at h
  dsimp only at h
  split at h
  next scraper hscraper => exact ⟨scraper, hscraper⟩
  next => cases h

/-- Two sessions are alike for a scraper that was just made in both, over the registry of the
process. -/
theorem alike_make_none (hsame : Same s s') (hshared : s'.ambient.shared = s.ambient.shared)
    {config : Config} {v : Value} (h : (s.make id config .none).2.result = .ok v) :
    Alike id none none (s.make id config .none).1 (s'.make id config .none).1 := by
  obtain ⟨scraper, hscraper⟩ := exists_build_of_hold id none h
  have hscraper' := hscraper
  rw [← hsame.build] at hscraper'
  change Alike id none none (s.hold id config none).1 (s'.hold id config none).1
  rw [hold_of_build hscraper, hold_of_build hscraper']
  exact ⟨⟨hsame.site, hsame.stages, hsame.access, hsame.settings⟩,
    ⟨scraper, lookup_bind_self .., lookup_bind_self ..⟩, .shared hshared⟩

/-- A registry that is injected under a name is there for that name alone. -/
theorem Sound.owns (hs : s.Sound) (id : String) (r : Registry)
    (scrapers : List (String × Held)) :
    Owns { s with
      scrapers, registries := s.registries ++ [r], injected := bind id s.registries.length s.injected }
      id s.registries.length r := by
  refine ⟨List.getElem?_concat_length, fun other => ?_⟩
  change (bind id s.registries.length s.injected).lookup other = _ ↔ _
  by_cases hother : other = id
  · rw [hother, lookup_bind_self]
    exact ⟨fun _ => rfl, fun _ => rfl⟩
  · rw [lookup_bind_of_ne hother]
    exact ⟨fun hplace => absurd (hs other _ hplace) (Nat.lt_irrefl _), fun heq => absurd heq hother⟩

/-- The same holds over a registry that is injected. -/
theorem alike_make_table (hsame : Same s s') (hs : s.Sound) (hs' : s'.Sound) {config : Config}
    {table : FilterTable} {v : Value} (h : (s.make id config (.table table)).2.result = .ok v) :
    Alike id (some s.registries.length) (some s'.registries.length)
      (s.make id config (.table table)).1 (s'.make id config (.table table)).1 := by
  unfold make at h ⊢
  dsimp only at h ⊢
  cases hbuilt : (Registry.build "injected" table).result with
  | error e =>
    rw [hbuilt] at h
    cases h
  | ok r =>
    rw [hbuilt] at h
    dsimp only at h ⊢
    obtain ⟨scraper, hscraper⟩ := exists_build_of_hold id _ h
    have hscraper' : (Scraper.build s'.ambient { config with fallback := none } s'.fetcher).result =
        .ok scraper := by
      rw [hsame.build]
      exact hscraper
    rw [hold_of_build hscraper, hold_of_build (s := { s' with
      registries := s'.registries ++ [r]
      injected := bind id s'.registries.length s'.injected }) hscraper']
    exact ⟨⟨hsame.site, hsame.stages, hsame.access, hsame.settings⟩,
      ⟨scraper, lookup_bind_self .., lookup_bind_self ..⟩, .injected (hs.owns id r _) (hs'.owns id r _)⟩

end Runs

/-- **Scrapers do not interfere.** Take a session that leaves the settings alone, and a scraper that is
made in it and keeps its name. If it is made over an injected registry, be it empty, then all that it
answers without a request is the same in the session that makes it first and has only the later steps
that use it or change its registry. If it falls back on the registry of the process, then it is the
same in the session that has only its steps and those that change that registry: the ones that are
there for it and succeed. -/
theorem scrapers_do_not_interfere (site : Http.Site) (stages : Nat) (access : Http.Access)
    (ambient : Ambient) (id : String) (config : Config) (before later : List Step)
    (hsettings : ∀ x ∈ before ++ later, x.assigns = false) :
    let start : Session := { site, stages, access, ambient }
    (∀ (table : FilterTable) (v : Value),
      ((start.after before).step (.make id config (.table table))).2.result = .ok v →
      Keeps id (start.after (before ++ [.make id config (.table table)])) later →
      (start.after [.make id config (.table table)]).answers id (later.filter (·.actsOn id)) =
        (start.after (before ++ [.make id config (.table table)])).answers id later) ∧
    (∀ v : Value,
      ((start.after before).step (.make id config .none)).2.result = .ok v →
      Keeps id (start.after (before ++ [.make id config .none])) later →
      (start.after (before.filter (·.changesShared) ++ [.make id config .none])).answers id
          (later.filter fun x => x.actsOn id || x.changesShared) =
        (start.after (before ++ [.make id config .none])).answers id later) ∧
    ∀ (s : Session) (x : Step), x.changesShared = true ↔
      x.isForShared = true ∧ ∃ v, (s.step x).2.result = .ok v := by
  intro start
  obtain ⟨hbefore, hlater⟩ := List.forall_mem_append.mp hsettings
  have hsame : Same (start.after before) start := (same_after hbefore start).symm
  have hstart : start.Sound := nofun
  refine ⟨fun table v hmade hkeeps => ?_, fun v hmade hkeeps => ?_, fun s x => ?_⟩
  · rw [after_append] at hkeeps ⊢
    have halike := alike_make_table hsame (sound_after hstart before) hstart hmade
    have hanswers := halike.answers hlater hkeeps
    simp only [Option.isNone_some, Bool.false_and, Bool.or_false] at hanswers
    exact hanswers
  · rw [after_append] at hkeeps ⊢
    rw [after_append]
    have hsame' : Same (start.after before) (start.after (before.filter (·.changesShared))) :=
      hsame.trans (same_after (fun x hx => hbefore x (List.mem_of_mem_filter hx)) start)
    have halike := alike_make_none hsame' (shared_after rfl before) hmade
    exact halike.answers hlater hkeeps
  · exact changesShared_iff s x

/-- A process with one filter for all, under default settings. -/
def sparse : Ambient := { shared := ⟨"global", [("mark", .filter Filter.trim)]⟩ }

/-- Another scraper is made, and a second filter registered for all. A third one is refused. -/
def preparations : List Step :=
  [.make "other" { filters := [("own", .filter Filter.trim)] } .none,
    .registerShared "late" (.filter Filter.trim), .registerShared "mark" (.ofValue (.str "x"))]

/-- What a scraper does and is asked between changes of other scrapers and of all registries. Some of
the changes are refused. -/
def interleaving : List Step :=
  [.act (.stored "job") (.find (.markup "") (some "p|mark") none),
    .act (.stored "other") (.setFilters [("mark", .filter Filter.trim)]),
    .act (.stored "job") (.hasFilter "late"),
    .act (.stored "job") (.setFilters [("late", .ofValue (.str "x"))]),
    .replaceShared [("new", .filter Filter.trim)],
    .replaceShared [("mark", .nothing)],
    .editInjected "job" (.register "own" (.filter Filter.trim)),
    .make "third" {} (.sharedWith "job"),
    .act (.stored "job") (.hasFilter "own"),
    .act (.stored "job") (.hasFilter "new")]

/-- A strict scraper over an empty registry refuses a filter that the process has. -/
theorem scrapers_do_not_interfere_shadowed :
    ((Session.after { site := {}, ambient := sparse }
        [.make "job" { strictFilters := some true } (.table [])]).answers "job"
        (interleaving.filter (·.actsOn "job"))).map (·.result) =
      [.error (.unknownFilter "mark" "p|mark"), .ok (.bool false), .error (.notCallable "late"),
        .ok (.bool true), .ok (.bool false)] ∧
    ((Session.after { site := {}, ambient := sparse }
        (preparations.filter (·.changesShared) ++
          [.make "job" { strictFilters := some true } .none])).answers "job"
        (interleaving.filter fun x => x.actsOn "job" || x.changesShared)).map (·.result) =
      [.ok .none, .ok (.bool true), .error (.notCallable "late"), .ok (.bool false),
        .ok (.bool true)] := by
  obtain ⟨hinjected, hshared, -⟩ := scrapers_do_not_interfere {} 96 .direct sparse "job"
    { strictFilters := some true } preparations interleaving (by decide)
  have hkeeps (s : Session) : Keeps "job" s interleaving := by
    simp [Keeps, interleaving, Step.renews, standardId]
  exact ⟨(congrArg (List.map (·.result)) (hinjected [] .none rfl (hkeeps _))).trans rfl,
    (congrArg (List.map (·.result)) (hshared .none rfl (hkeeps _))).trans rfl⟩

end Session

end Gleaner
