import FlashTicketing.Simulation

namespace Allocation

open Transition

/-!
# Exclusive allocation with deadlines

Places are given to claimants.  A claimant takes all of its places at once and
has them until a deadline.  Before that it may keep them for good, all at once
or not at all, or give up those it still has.  A place whose deadline has
passed may be taken over by somebody else, without asking.
-/

variable {Place Claimant Time : Type}

/-- What is known of one place. -/
inductive Holding (Claimant Time : Type) where
  | free
  | held (claimant : Claimant) (deadline : Time)
  | owned (claimant : Claimant)
  deriving Repr, DecidableEq

namespace Holding

/-- The place may be taken at the given time. -/
def Takeable [LE Time] (now : Time) : Holding Claimant Time → Prop
  | .free => True
  | .held _ deadline => deadline ≤ now
  | .owned _ => False

/-- The place is with the claimant, for a time or for good. -/
def With (claimant : Claimant) : Holding Claimant Time → Prop
  | .free => False
  | .held other _ => other = claimant
  | .owned other => other = claimant

end Holding

/-- Where every place is, and what every claimant asked for. -/
@[ext] structure Office (Place Claimant Time : Type) where
  holding : Place → Holding Claimant Time
  places : Claimant → Set Place

namespace Office

/-- Nothing has been taken yet. -/
structure Opening (office : Office Place Claimant Time) : Prop where
  free : ∀ place, office.holding place = .free
  unclaimed : ∀ claimant, office.places claimant = ∅

open Classical in
/-- The claimant gets the places until the deadline. -/
noncomputable def take
    (office : Office Place Claimant Time)
    (claimant : Claimant)
    (places : Set Place)
    (deadline : Time) :
    Office Place Claimant Time where
  holding place :=
    if place ∈ places then
      .held claimant deadline
    else
      office.holding place
  places other :=
    if other = claimant then places else office.places other

open Classical in
/-- The claimant loses the places it has for a time. -/
noncomputable def giveUp
    (office : Office Place Claimant Time)
    (claimant : Claimant) :
    Office Place Claimant Time where
  holding place :=
    match office.holding place with
    | .held other deadline =>
        if other = claimant then .free else .held other deadline
    | holding => holding
  places := office.places

open Classical in
/-- The claimant gets its places for good. -/
noncomputable def keep
    (office : Office Place Claimant Time)
    (claimant : Claimant) :
    Office Place Claimant Time where
  holding place :=
    if place ∈ office.places claimant then
      .owned claimant
    else
      office.holding place
  places := office.places

end Office

/-! ## Actions -/

/-- What a claimant does, with the time at which it does it. -/
inductive Action (Place Claimant Time : Type) where
  | take
      (now : Time)
      (claimant : Claimant)
      (places : Set Place)
      (deadline : Time)
  | giveUp (now : Time) (claimant : Claimant)
  | keep (now : Time) (claimant : Claimant)

/-- The time of an action. -/
def Action.now : Action Place Claimant Time → Time
  | .take now .. => now
  | .giveUp now _ => now
  | .keep now _ => now

/-- One action that the rules allow. -/
inductive Step [Preorder Time] :
    Office Place Claimant Time →
    Action Place Claimant Time →
    Office Place Claimant Time → Prop where
  | take
      {office : Office Place Claimant Time}
      {now deadline : Time}
      {claimant : Claimant}
      {places : Set Place}
      (new : office.places claimant = ∅)
      (takeable : ∀ place ∈ places, (office.holding place).Takeable now) :
      Step office (.take now claimant places deadline)
        (office.take claimant places deadline)
  | giveUp
      {office : Office Place Claimant Time}
      {now : Time}
      {claimant : Claimant} :
      Step office (.giveUp now claimant) (office.giveUp claimant)
  | keep
      {office : Office Place Claimant Time}
      {now : Time}
      {claimant : Claimant}
      (some : (office.places claimant).Nonempty)
      (unexpired :
        ∀ place ∈ office.places claimant,
          ∃ deadline,
            office.holding place = .held claimant deadline ∧
              now < deadline) :
      Step office (.keep now claimant) (office.keep claimant)

/-! ## What the rules guarantee -/

/-- Claimants have only what they asked for, and own all of it or nothing. -/
structure Whole (office : Office Place Claimant Time) : Prop where
  listed :
    ∀ {place claimant},
      (office.holding place).With claimant →
      place ∈ office.places claimant
  allOwned :
    ∀ {place claimant},
      office.holding place = .owned claimant →
      ∀ other ∈ office.places claimant,
        office.holding other = .owned claimant

/-- The claimant asked for a place that it does not have. -/
def Lost
    (claimant : Claimant)
    (office : Office Place Claimant Time) : Prop :=
  ∃ place ∈ office.places claimant,
    ¬ (office.holding place).With claimant

/-- Who has lost one of its places owns none of them. -/
theorem Whole.not_owned
    {office : Office Place Claimant Time}
    {claimant : Claimant}
    {place : Place}
    (whole : Whole office)
    (lost : Lost claimant office) :
    office.holding place ≠ .owned claimant := by
  intro owned
  obtain ⟨other, claimed, gone⟩ := lost
  rw [whole.allOwned owned other claimed] at gone
  exact gone rfl

theorem Office.Opening.whole
    {office : Office Place Claimant Time}
    (opening : office.Opening) :
    Whole office where
  listed := by
    intro place claimant holds
    rw [opening.free place] at holds
    exact holds.elim
  allOwned := by
    intro place claimant owned
    rw [opening.free place] at owned
    cases owned

namespace Office

variable
  {office : Office Place Claimant Time}
  {claimant other : Claimant}
  {places : Set Place}
  {place : Place}
  {deadline : Time}

theorem holding_take_of_mem
    (taken : place ∈ places) :
    (office.take claimant places deadline).holding place =
      .held claimant deadline :=
  if_pos taken

theorem holding_take_of_notMem
    (notTaken : place ∉ places) :
    (office.take claimant places deadline).holding place =
      office.holding place :=
  if_neg notTaken

theorem places_take_of_ne
    (distinct : other ≠ claimant) :
    (office.take claimant places deadline).places other =
      office.places other :=
  if_neg distinct

@[simp] theorem places_take_self :
    (office.take claimant places deadline).places claimant = places :=
  if_pos rfl

@[simp] theorem places_giveUp :
    (office.giveUp claimant).places = office.places :=
  rfl

/-- Giving up frees what the claimant has for a time, and nothing else. -/
theorem holding_giveUp_cases
    (office : Office Place Claimant Time)
    (claimant : Claimant)
    (place : Place) :
    ((∃ deadline, office.holding place = .held claimant deadline) ∧
      (office.giveUp claimant).holding place = .free) ∨
    ((∀ deadline, office.holding place ≠ .held claimant deadline) ∧
      (office.giveUp claimant).holding place = office.holding place) := by
  cases isHolding : office.holding place with
  | free => simp [giveUp, isHolding]
  | owned owner => simp [giveUp, isHolding]
  | held holder deadline =>
      by_cases same : holder = claimant
      · simp [giveUp, isHolding, same]
      · simp [giveUp, isHolding, same]

@[simp] theorem places_keep :
    (office.keep claimant).places = office.places :=
  rfl

theorem holding_keep_of_mem
    (kept : place ∈ office.places claimant) :
    (office.keep claimant).holding place = .owned claimant :=
  if_pos kept

theorem holding_keep_of_notMem
    (notKept : place ∉ office.places claimant) :
    (office.keep claimant).holding place = office.holding place :=
  if_neg notKept

end Office

section Steps

variable
  [Preorder Time]
  {office after : Office Place Claimant Time}
  {action : Action Place Claimant Time}
  {claimant : Claimant}

/-- What is owned stays with its owner. -/
theorem Step.owned_kept
    {place : Place}
    (step : Step office action after)
    (owned : office.holding place = .owned claimant) :
    after.holding place = .owned claimant := by
  cases step with
  | @take now deadline taker places new takeable =>
      have notTaken : place ∉ places := by
        intro taken
        have free := takeable place taken
        rw [owned] at free
        exact free
      rw [Office.holding_take_of_notMem notTaken, owned]
  | giveUp =>
      simp only [Office.giveUp, owned]
  | @keep now keeper some unexpired =>
      have notKept : place ∉ office.places keeper := by
        intro kept
        obtain ⟨deadline, held, _⟩ := unexpired place kept
        rw [owned] at held
        cases held
      rw [Office.holding_keep_of_notMem notKept, owned]

/-- Only a claimant without places takes any. -/
theorem Step.places_kept
    (step : Step office action after)
    (claimed : (office.places claimant).Nonempty) :
    after.places claimant = office.places claimant := by
  cases step with
  | @take now deadline taker places new takeable =>
      refine Office.places_take_of_ne ?_
      intro same
      rw [same, new] at claimed
      exact Set.not_nonempty_empty claimed
  | giveUp => rfl
  | keep => rfl

/-- Whoever owns a place after an action owned it before or just kept it. -/
theorem Step.owned_before
    {place : Place}
    (step : Step office action after)
    (owned : after.holding place = .owned claimant) :
    office.holding place = .owned claimant ∨
      (after = office.keep claimant ∧ place ∈ office.places claimant) := by
  cases step with
  | @take now deadline taker places new takeable =>
      by_cases taken : place ∈ places
      · rw [Office.holding_take_of_mem taken] at owned
        cases owned
      · rw [Office.holding_take_of_notMem taken] at owned
        exact Or.inl owned
  | @giveUp now quitter =>
      rcases office.holding_giveUp_cases quitter place with
        ⟨_, freed⟩ | ⟨_, same⟩
      · rw [freed] at owned
        cases owned
      · exact Or.inl (same.symm.trans owned)
  | @keep now keeper some unexpired =>
      by_cases kept : place ∈ office.places keeper
      · rw [Office.holding_keep_of_mem kept] at owned
        cases owned
        exact Or.inr ⟨rfl, kept⟩
      · rw [Office.holding_keep_of_notMem kept] at owned
        exact Or.inl owned

theorem Whole.listed_step
    {place : Place}
    (whole : Whole office)
    (step : Step office action after)
    (isWith : (after.holding place).With claimant) :
    place ∈ after.places claimant := by
  cases step with
  | @take now deadline taker places new takeable =>
      by_cases taken : place ∈ places
      · rw [Office.holding_take_of_mem taken] at isWith
        have isTaker : taker = claimant := isWith
        rw [← isTaker, Office.places_take_self]
        exact taken
      · rw [Office.holding_take_of_notMem taken] at isWith
        have before := whole.listed isWith
        have distinct : claimant ≠ taker := by
          intro same
          rw [same, new] at before
          exact before
        rw [Office.places_take_of_ne distinct]
        exact before
  | @giveUp now quitter =>
      rcases office.holding_giveUp_cases quitter place with
        ⟨_, freed⟩ | ⟨_, same⟩
      · rw [freed] at isWith
        exact isWith.elim
      · rw [same] at isWith
        exact whole.listed isWith
  | @keep now keeper some unexpired =>
      by_cases kept : place ∈ office.places keeper
      · rw [Office.holding_keep_of_mem kept] at isWith
        have isKeeper : keeper = claimant := isWith
        rw [← isKeeper]
        exact kept
      · rw [Office.holding_keep_of_notMem kept] at isWith
        exact whole.listed isWith

theorem Whole.step
    (whole : Whole office)
    (step : Step office action after) :
    Whole after where
  listed := whole.listed_step step
  allOwned := by
    intro place claimant owned other member
    rcases step.owned_before owned with before | ⟨rfl, kept⟩
    · have listed : place ∈ office.places claimant := by
        apply whole.listed
        rw [before]
        rfl
      rw [step.places_kept ⟨place, listed⟩] at member
      exact step.owned_kept (whole.allOwned before other member)
    · exact Office.holding_keep_of_mem member

/-- A lost place never comes back. -/
theorem Lost.step
    (lost : Lost claimant office)
    (step : Step office action after) :
    Lost claimant after := by
  obtain ⟨place, claimed, gone⟩ := lost
  have samePlaces := step.places_kept ⟨place, claimed⟩
  refine ⟨place, samePlaces ▸ claimed, ?_⟩
  cases step with
  | @take now deadline taker places new takeable =>
      by_cases taken : place ∈ places
      · rw [Office.holding_take_of_mem taken]
        intro isTaker
        rw [show taker = claimant from isTaker] at new
        rw [new] at claimed
        exact claimed
      · rw [Office.holding_take_of_notMem taken]
        exact gone
  | @giveUp now quitter =>
      rcases office.holding_giveUp_cases quitter place with
        ⟨_, freed⟩ | ⟨_, same⟩
      · rw [freed]
        exact id
      · rw [same]
        exact gone
  | @keep now keeper some unexpired =>
      by_cases kept : place ∈ office.places keeper
      · rw [Office.holding_keep_of_mem kept]
        intro isKeeper
        obtain ⟨deadline, held, _⟩ := unexpired place kept
        rw [held] at gone
        exact gone isKeeper
      · rw [Office.holding_keep_of_notMem kept]
        exact gone

/-! ## Runs -/

theorem Whole.run
    {actions : List (Action Place Claimant Time)}
    (whole : Whole office)
    (run : Run Step office actions after) :
    Whole after :=
  run.invariant whole fun holds taken => holds.step taken

theorem Lost.run
    {actions : List (Action Place Claimant Time)}
    (lost : Lost claimant office)
    (run : Run Step office actions after) :
    Lost claimant after :=
  run.invariant lost fun holds taken => holds.step taken

/-- A claimant that has lost a place never owns any of its places. -/
theorem never_owned_of_lost
    {actions : List (Action Place Claimant Time)}
    (whole : Whole office)
    (lost : Lost claimant office)
    (run : Run Step office actions after)
    (place : Place) :
    after.holding place ≠ .owned claimant :=
  (whole.run run).not_owned (lost.run run)

/-! ## Actions at one time -/

/-- Some actions, all at the given time, lead from one office to another. -/
def ActsAt (now : Time) (office after : Office Place Claimant Time) : Prop :=
  ∃ actions : List (Action Place Claimant Time),
    (∀ action ∈ actions, action.now = now) ∧
      Run Step office actions after

namespace ActsAt

variable {now : Time}

theorem idle
    (same : after = office) :
    ActsAt now office after := by
  refine ⟨[], by simp, ?_⟩
  rw [same]
  exact .nil office

theorem one
    (step : Step office action after)
    (timed : action.now = now) :
    ActsAt now office after :=
  ⟨[action], by simpa using timed, .single step⟩

theorem trans
    {first second third : Office Place Claimant Time}
    (early : ActsAt now first second)
    (late : ActsAt now second third) :
    ActsAt now first third := by
  obtain ⟨earlyActions, earlyTimed, earlyRun⟩ := early
  obtain ⟨lateActions, lateTimed, lateRun⟩ := late
  refine ⟨earlyActions ++ lateActions, ?_, earlyRun.append lateRun⟩
  intro action member
  rcases List.mem_append.mp member with earlier | later
  · exact earlyTimed action earlier
  · exact lateTimed action later

end ActsAt

end Steps

end Allocation
