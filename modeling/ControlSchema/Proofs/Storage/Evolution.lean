import ControlSchema.Proofs.Storage.Run

/-!
# What a run leaves alone

A run is followed through a relation between what stood at a place before and what
stands there after. If every step of a run keeps the relation, so does the run,
wherever it is interrupted; a sound disk stays sound, and a fault that stands for a
broken device is put down to a change that was told to fail.
-/

namespace ControlSchema

namespace Disk

/-! ## Relations between nodes -/

/-- What may have become of the node at a place. -/
abbrev Fate := Trail → Option Node → Option Node → Prop

/-- A fate that steps can be put together from. -/
structure Fate.Steady (fate : Fate) : Prop where
  refl : ∀ place node, fate place node node
  trans : ∀ place a b c, fate place a b → fate place b c → fate place a c

/-- Nothing has become of it. -/
def kept : Fate := fun _ before after => after = before

/-- It is gone, if it was at a place or below it. -/
def lost (top : Trail) : Fate := fun place before after =>
  after = before ∨ top <+: place ∧ after = none

/-- There is a directory where nothing was, on the way to a place. -/
def grown (bottom : Trail) : Fate := fun place before after =>
  after = before ∨ place <+: bottom ∧ before = none ∧ after = some .directory

theorem steady_kept : Fate.Steady kept :=
  ⟨fun _ _ => rfl, fun _ _ _ _ hab hbc => Eq.trans hbc hab⟩

theorem steady_lost (top : Trail) : Fate.Steady (lost top) where
  refl := fun _ _ => Or.inl rfl
  trans := by
    rintro place a b c (rfl | hab) (rfl | hbc)
    · exact Or.inl rfl
    · exact Or.inr hbc
    · exact Or.inr hab
    · exact Or.inr hbc

theorem steady_grown (bottom : Trail) : Fate.Steady (grown bottom) where
  refl := fun _ _ => Or.inl rfl
  trans := by
    rintro place a b c (rfl | hab) (rfl | hbc)
    · exact Or.inl rfl
    · exact Or.inr hbc
    · exact Or.inr hab
    · exact Or.inr ⟨hab.1, hab.2.1, hbc.2.2⟩

theorem not_concat_prefix (place : Trail) (name : String) : ¬ place ++ [name] <+: place :=
  fun hwithin => absurd hwithin.length_le (by simp)

/-- Names in a directory are not below each other. -/
theorem not_prefix_of_ne {above : Trail} {name other : String} (h : name ≠ other) :
    ¬ above ++ [name] <+: above ++ [other] := fun hwithin =>
  h (List.cons.inj (List.append_inj' (hwithin.eq_of_length (by simp)) rfl).2).1

theorem disjoint_of_ne {above place : Trail} {name other : String} (h : name ≠ other)
    (hname : above ++ [name] <+: place) : ¬ above ++ [other] <+: place := fun hother =>
  (List.prefix_or_prefix_of_prefix hname hother).elim (not_prefix_of_ne h)
    (not_prefix_of_ne (Ne.symm h))

/-- Only what is on the way to a place has grown, and nothing in it. -/
theorem eq_of_grown {above place : Trail} {name : String} {before after : Option Node}
    (h : above ++ [name] <+: place) (hfate : grown above place before after) :
    after = before :=
  hfate.resolve_right fun hnew => not_concat_prefix above name (h.trans hnew.1)

/-- Or anything else, if it was at a place or below it. -/
def Fate.except (fate : Fate) (top : Trail) : Fate := fun place before after =>
  fate place before after ∨ top <+: place

theorem Fate.Steady.except {fate : Fate} (h : fate.Steady) (top : Trail) :
    (fate.except top).Steady where
  refl := fun place node => Or.inl (h.refl place node)
  trans := by
    rintro place a b c (hab | hinside) (hbc | hinside')
    · exact Or.inl (h.trans place a b c hab hbc)
    · exact Or.inr hinside'
    · exact Or.inr hinside
    · exact Or.inr hinside

/-- Anything, if it was at a place or below it. -/
def inside (top : Trail) : Fate := kept.except top

theorem steady_inside (top : Trail) : Fate.Steady (inside top) := steady_kept.except top

/-! ## Runs that keep a relation -/

/-- What a run may have made of a disk. -/
structure Evolves (fate : Fate) (d d' : Disk) : Prop where
  sound : d'.Sound
  home : d'.home = d.home
  failing : d'.failing = d.failing
  steps : d.steps ≤ d'.steps
  nodes : ∀ place, fate place (d.node? place) (d'.node? place)

theorem Evolves.refl {fate : Fate} (hfate : fate.Steady) {d : Disk} (hd : d.Sound) :
    Evolves fate d d := ⟨hd, rfl, rfl, Nat.le_refl _, fun _ => hfate.refl _ _⟩

theorem Evolves.trans {fate : Fate} (hfate : fate.Steady) {d d' d'' : Disk}
    (h : Evolves fate d d') (h' : Evolves fate d' d'') : Evolves fate d d'' where
  sound := h'.sound
  home := h'.home.trans h.home
  failing := h'.failing.trans h.failing
  steps := h.steps.trans h'.steps
  nodes := fun place => hfate.trans _ _ _ _ (h.nodes place) (h'.nodes place)

theorem Evolves.mono {fate fate' : Fate} {d d' : Disk} (h : Evolves fate d d')
    (hle : ∀ place before after, fate place before after → fate' place before after) :
    Evolves fate' d d' := ⟨h.sound, h.home, h.failing, h.steps, fun _ => hle _ _ _ (h.nodes _)⟩

theorem Evolves.spot {fate : Fate} {d d' : Disk} (h : Evolves fate d d') (path : String) :
    d'.spot path = d.spot path := by
  rw [Disk.spot, Disk.spot, start, start, h.home]

theorem Evolves.counted {fate : Fate} {d d' : Disk} (h : Evolves fate d d') {steps : Nat}
    (hsteps : d.steps ≤ steps) : Evolves fate d (d'.counted steps) :=
  ⟨h.sound.counted steps, h.home, h.failing, hsteps, h.nodes⟩

/-- A fault of a device comes from a change that was told to fail. -/
def Blames (d d' : Disk) (e : StorageError) : Prop :=
  e.fault = .inputOutput → ∃ n, d.steps ≤ n ∧ n < d'.steps ∧ d.failing n = true

theorem Blames.of_evolves {fate : Fate} {d d' d'' : Disk} {e : StorageError}
    (h : Evolves fate d d') (he : Blames d' d'' e) : Blames d d'' e := by
  intro hfault
  obtain ⟨n, hlow, hhigh, hfailing⟩ := he hfault
  exact ⟨n, h.steps.trans hlow, hhigh, by rwa [← h.failing]⟩

/-- A run that keeps a relation and whose faults are accounted for. -/
structure Runs {α : Type} (fate : Fate) (x : StorageT Run α) (d : Disk) : Prop where
  evolves : Evolves fate d (x.run d).2
  blames : ∀ e, (x.run d).1 = .error e → Blames d (x.run d).2 e

section

variable {α β : Type} {fate : Fate} {x : StorageT Run α} {d : Disk}

theorem Runs.bind (hfate : fate.Steady) {f : α → StorageT Run β} (hx : Runs fate x d)
    (hf : ∀ a d', x.run d = (.ok a, d') → Evolves fate d d' → Runs fate (f a) d') :
    Runs fate (x >>= f) d := by
  rcases hrun : x.run d with ⟨r, d'⟩
  have hd' := hx.evolves
  rw [hrun] at hd'
  cases r with
  | error e =>
    have he := hx.blames e (by rw [hrun])
    rw [hrun] at he
    constructor
    · rw [run_bind_of_error hrun]
      exact hd'
    · rw [run_bind_of_error hrun]
      intro e' heq
      cases heq
      exact he
  | ok a =>
    have ha := hf a d' hrun hd'
    constructor
    · rw [run_bind_of_ok hrun]
      exact hd'.trans hfate ha.evolves
    · rw [run_bind_of_ok hrun]
      exact fun e heq => (ha.blames e heq).of_evolves hd'

theorem Runs.pure (hfate : fate.Steady) (hd : d.Sound) (a : α) :
    Runs fate (pure a : StorageT Run α) d := ⟨Evolves.refl hfate hd, fun _ h => by cases h⟩

/-- A run whose fault is looked at: it is thrown again, or the run goes on. -/
theorem Runs.attempt (hfate : fate.Steady) {f : Except StorageError α → StorageT Run β}
    (hx : Runs fate x d)
    (hf : ∀ r d', x.run d = (r, d') → Evolves fate d d' →
      Runs fate (f r) d' ∨ ∃ e, r = .error e ∧ (f r).run d' = (.error e, d')) :
    Runs fate (ExceptT.lift x.run >>= f) d := by
  rcases hrun : x.run d with ⟨r, d'⟩
  have hlift : (ExceptT.lift x.run : StorageT Run _).run d = (.ok r, d') := by
    rw [run_lift, hrun]
  have hd' := hx.evolves
  rw [hrun] at hd'
  rcases hf r d' hrun hd' with hr | ⟨e, rfl, hthrow⟩
  · constructor
    · rw [run_bind_of_ok hlift]
      exact hd'.trans hfate hr.evolves
    · rw [run_bind_of_ok hlift]
      exact fun e heq => (hr.blames e heq).of_evolves hd'
  · have he := hx.blames e (by rw [hrun])
    rw [hrun] at he
    constructor
    · rw [run_bind_of_ok hlift, hthrow]
      exact hd'
    · rw [run_bind_of_ok hlift, hthrow]
      intro e' heq
      cases heq
      exact he

/-- Every item is run on a sound disk with the same home. -/
theorem Runs.forM (hfate : fate.Steady) {items : List α} {f : α → StorageT Run PUnit}
    (hd : d.Sound)
    (hf : ∀ a ∈ items, ∀ d', Evolves fate d d' → Runs fate (f a) d') :
    Runs fate (items.forM f) d := by
  suffices hall : ∀ d', Evolves fate d d' → Runs fate (items.forM f) d' from
    hall d (Evolves.refl hfate hd)
  induction items with
  | nil => exact fun d' hd' => Runs.pure hfate hd'.sound ()
  | cons a items ih =>
    intro d' hd'
    have ha := hf a List.mem_cons_self d' hd'
    exact Runs.bind hfate ha fun _ d'' _ hd'' =>
      ih (fun b hb => hf b (List.mem_cons_of_mem a hb)) d'' (hd'.trans hfate hd'')

/-- A loop fails at one of its items. -/
theorem Runs.forM_eq_error (hfate : fate.Steady) {items : List α} {f : α → StorageT Run PUnit}
    (hd : d.Sound) (hf : ∀ a ∈ items, ∀ d', Evolves fate d d' → Runs fate (f a) d')
    {d'' : Disk} {e : StorageError} (h : (items.forM f).run d = (.error e, d'')) :
    ∃ a ∈ items, ∃ d', Evolves fate d d' ∧ (f a).run d' = (.error e, d'') := by
  suffices hall : ∀ d', Evolves fate d d' → (items.forM f).run d' = (.error e, d'') →
      ∃ a ∈ items, ∃ d', Evolves fate d d' ∧ (f a).run d' = (.error e, d'') from
    hall d (Evolves.refl hfate hd) h
  clear h
  induction items with
  | nil => exact fun d' _ h => by cases h
  | cons a items ih =>
    intro d' hd' h
    rcases run_bind_eq_error (f := fun _ => items.forM f) h with hfirst | ⟨_, d₁, hfirst, hlater⟩
    · exact ⟨a, List.mem_cons_self, d', hd', hfirst⟩
    · have ha := (hf a List.mem_cons_self d' hd').evolves
      rw [hfirst] at ha
      obtain ⟨b, hb, hfailed⟩ := ih (fun b hb => hf b (List.mem_cons_of_mem a hb)) d₁
        (hd'.trans hfate ha) hlater
      exact ⟨b, List.mem_cons_of_mem a hb, hfailed⟩

end

/-! ## Runs that cannot fail -/

theorem bind_apply {α β : Type} (x : Run α) (f : α → Run β) (d : Disk) :
    (x >>= f) d = f (x d).1 (x d).2 := rfl

theorem evolves_forM {α : Type} {fate : Fate} (hfate : fate.Steady) {items : List α}
    {f : α → Run PUnit} {d : Disk} (hd : d.Sound)
    (hf : ∀ a ∈ items, ∀ d', Evolves fate d d' → Evolves fate d' (f a d').2) :
    Evolves fate d ((items.forM f : Run PUnit) d).2 := by
  suffices hall : ∀ d', Evolves fate d d' → Evolves fate d ((items.forM f : Run PUnit) d').2 from
    hall d (Evolves.refl hfate hd)
  induction items with
  | nil => exact fun d' hd' => hd'
  | cons a items ih =>
    intro d' hd'
    exact ih (fun b hb => hf b (List.mem_cons_of_mem a hb)) _
      (hd'.trans hfate (hf a List.mem_cons_self d' hd'))

/-! ## Primitive operations -/

section

variable {fate : Fate} (hfate : fate.Steady) {d : Disk} (hd : d.Sound)
include hfate hd

/-- A change that is refused leaves the disk, and one that is made keeps the relation
if its action does. -/
theorem Runs.change {α : Type} {path : String} {target : Option String}
    {action : Disk → Except StorageFault (α × Disk)} (hown : Own (action d))
    (haction : ∀ a d₁, action d = .ok (a, d₁) → d₁.Sound ∧ d₁.home = d.home ∧
      d₁.failing = d.failing ∧ ∀ place, fate place (d.node? place) (d₁.node? place)) :
    Runs fate (change path target action) d := by
  rcases hrun : (Disk.change path target action).run d with ⟨r, d'⟩
  cases r with
  | error e =>
    obtain ⟨hd', hrefused⟩ := change_eq_error hrun
    constructor
    · rw [hrun, hd']
      exact (Evolves.refl hfate hd).counted (Nat.le_succ d.steps)
    · rw [hrun]
      intro e' heq hfault
      cases heq
      rcases hrefused.fault with ⟨-, hfailing⟩ | hact
      · exact ⟨d.steps, Nat.le_refl _, by rw [hd']; exact Nat.lt_succ_self d.steps, hfailing⟩
      · rw [hfault] at hact
        exact absurd hact hown
  | ok a =>
    obtain ⟨-, d₁, hact, hd'⟩ := change_eq_ok hrun
    obtain ⟨hsound, hhome, hfailing, hnodes⟩ := haction a d₁ hact
    constructor
    · rw [hrun, hd']
      exact ⟨hsound.counted _, hhome, hfailing, Nat.le_succ d.steps, hnodes⟩
    · rw [hrun]
      exact fun e heq => by cases heq

theorem Runs.alter {path : String} {target : Option String}
    {action : Disk → Except StorageFault Disk} (hown : Own (action d))
    (haction : ∀ d₁, action d = .ok d₁ → d₁.Sound ∧ d₁.home = d.home ∧
      d₁.failing = d.failing ∧ ∀ place, fate place (d.node? place) (d₁.node? place)) :
    Runs fate (alter path target action) d := by
  refine Runs.change hfate hd ?_ fun a d₁ hact => ?_
  · cases hresult : action d with
    | error fault => exact fun heq => hown (by rw [hresult]; cases heq; rfl)
    | ok d₁ => exact nofun
  · cases hresult : action d with
    | error fault =>
      rw [hresult] at hact
      cases hact
    | ok d₁ =>
      rw [hresult] at hact
      cases hact
      exact haction _ hresult

theorem Runs.inquire {α : Type} {path : String} {answer : Disk → Except StorageFault α}
    (hown : Own (answer d)) : Runs fate (inquire path answer) d := by
  rcases hrun : (Disk.inquire path answer).run d with ⟨r, d'⟩
  cases r with
  | error e =>
    obtain ⟨hanswer, -, -, rfl⟩ := inquire_eq_error hrun
    constructor
    · rw [hrun]
      exact Evolves.refl hfate hd
    · rw [hrun]
      intro e' heq hfault
      cases heq
      rw [hfault] at hanswer
      exact absurd hanswer hown
  | ok a =>
    obtain ⟨-, rfl⟩ := inquire_eq_ok hrun
    constructor
    · rw [hrun]
      exact Evolves.refl hfate hd
    · rw [hrun]
      exact fun e heq => by cases heq

/-- Asking leaves the disk. -/
theorem Runs.lift {α : Type} {x : Run α} (hx : (x d).2 = d) :
    Runs fate (ExceptT.lift x : StorageT Run α) d := by
  constructor
  · rw [run_lift, hx]
    exact Evolves.refl hfate hd
  · rw [run_lift]
    exact fun e heq => by cases heq

end

end Disk

end ControlSchema
