import FlashTicketing.PostgresSchema
import FlashTicketing.Transition

namespace FlashTicketing

open Transition

/-!
# Shields of seats

`RedisSeats.shield` puts a key with a token and a lease on each seat of an
attempt, and deletes those keys at its end.  Attempts interleave in any order,
a release may run late, repeatedly or never, and a key may go at any time.
-/

/-- The value of a shield key and the last millisecond in which it is there. -/
structure ShieldKey where
  token : Uuid
  expiresAt : Int

/-- The shield keys of one event. -/
abbrev Shields := SeatId → Option ShieldKey

namespace Shields

/-- `GET`; a key has expired once the clock is past its time. -/
def get (shields : Shields) (now : Int) (seat : SeatId) : Option Uuid :=
  ((shields seat).filter fun key => decide (now ≤ key.expiresAt)).map
    ShieldKey.token

/-- The keys without that of one seat. -/
def del (shields : Shields) (seat : SeatId) : Shields :=
  Function.update shields seat none

/-- `ACQUIRE`, and whether it succeeds. -/
def acquire
    (shields : Shields)
    (now : Int)
    (seats : List SeatId)
    (token : Uuid)
    (px : Nat) : Bool × Shields :=
  if seats.any fun seat => (shields.get now seat).isSome then
    (false, shields)
  else
    (true, seats.foldl
      (fun set seat => Function.update set seat (some ⟨token, now + px⟩))
      shields)

/-- `RELEASE`. -/
def release
    (shields : Shields)
    (now : Int)
    (seats : List SeatId)
    (token : Uuid) : Shields :=
  seats.foldl
    (fun kept seat =>
      if kept.get now seat = some token then kept.del seat else kept)
    shields

variable
  {shields : Shields}
  {now : Int}
  {seats : List SeatId}
  {token : Uuid}
  {seat : SeatId}

theorem get_eq_some :
    shields.get now seat = some token ↔
      ∃ expiresAt, shields seat = some ⟨token, expiresAt⟩ ∧
        now ≤ expiresAt := by
  unfold get
  cases shields seat with
  | none => simp
  | some key =>
      obtain ⟨other, expiresAt⟩ := key
      by_cases alive : now ≤ expiresAt
      · simp [alive]
      · simp [alive]

theorem del_self : shields.del seat seat = none := by
  rw [del, Function.update_self]

theorem del_of_ne
    {other : SeatId}
    (differs : seat ≠ other) :
    shields.del other seat = shields seat := by
  rw [del, Function.update_of_ne differs]

/-- `GET` looks at its own key. -/
theorem get_congr
    {others : Shields}
    (same : others seat = shields seat)
    (now : Int) :
    others.get now seat = shields.get now seat := by
  unfold get
  rw [same]

/-- The loop that sets the keys. -/
theorem setAll_apply
    (key : ShieldKey)
    (shields : Shields)
    (seats : List SeatId)
    (seat : SeatId) :
    seats.foldl (fun set seat => Function.update set seat (some key)) shields
        seat =
      if seat ∈ seats then some key else shields seat := by
  induction seats generalizing shields with
  | nil => simp
  | cons first rest inductionHypothesis =>
      rw [List.foldl_cons, inductionHypothesis]
      by_cases inRest : seat ∈ rest
      · simp [inRest]
      · by_cases isFirst : seat = first
        · simp [isFirst]
        · simp [inRest, isFirst]

/-- A failed `ACQUIRE` changes no key. -/
theorem acquire_failed
    {px : Nat}
    (failed : (shields.acquire now seats token px).1 = false) :
    (shields.acquire now seats token px).2 = shields := by
  unfold acquire at failed ⊢
  split at failed
  · rename_i held
    rw [if_pos held]
  · cases failed

/-- A successful `ACQUIRE` found no key, and sets one on each of the seats. -/
theorem acquire_succeeded
    {px : Nat}
    (succeeded : (shields.acquire now seats token px).1 = true) :
    (∀ seat ∈ seats, shields.get now seat = none) ∧
      ∀ seat,
        (shields.acquire now seats token px).2 seat =
          if seat ∈ seats then some ⟨token, now + px⟩ else shields seat := by
  unfold acquire at succeeded ⊢
  split at succeeded
  · cases succeeded
  · rename_i free
    rw [if_neg free]
    constructor
    · intro seat member
      simp only [List.any_eq_true, not_exists, not_and] at free
      simpa using free seat member
    · exact setAll_apply _ shields seats

/-- `RELEASE` deletes exactly the keys that hold its own token. -/
theorem release_apply
    (shields : Shields)
    (now : Int)
    (seats : List SeatId)
    (token : Uuid)
    (seat : SeatId) :
    shields.release now seats token seat =
      if seat ∈ seats ∧ shields.get now seat = some token then
        none
      else
        shields seat := by
  unfold release
  induction seats generalizing shields with
  | nil => simp
  | cons first rest inductionHypothesis =>
      rw [List.foldl_cons, inductionHypothesis]
      by_cases isFirst : seat = first
      · subst isFirst
        by_cases own : shields.get now seat = some token
        · simp [own, del_self]
        · simp [own]
      · have kept :
            (if shields.get now first = some token then shields.del first
              else shields) seat = shields seat := by
          split
          · exact del_of_ne isFirst
          · rfl
        rw [get_congr kept, kept]
        simp [isFirst]

end Shields

/-! ## Attempts -/

/-- The lease that `shield` asks for, in milliseconds. -/
def shieldLease : Nat := 2000

/-- An attempt whose `ACQUIRE` has succeeded. -/
structure ShieldAttempt where
  seats : List SeatId
  acquiredAt : Int
  /-- A `RELEASE` has run. -/
  released : Bool := false
  /-- The seats whose keys have gone before their time. -/
  lost : List SeatId := []

/-- The clock, the keys of one event, and the attempts by their tokens. -/
structure ShieldWorld where
  now : Int
  keys : Shields := fun _ => none
  attempts : Uuid → Option ShieldAttempt := fun _ => none

inductive ShieldAction where
  | acquire (token : Uuid) (seats : List SeatId)
  | release (token : Uuid)
  | wait (later : Int)
  | lose (seat : SeatId)

/-- The lease of the attempt on one of its seats is over. -/
def ShieldAttempt.Expired
    (attempt : ShieldAttempt)
    (now : Int)
    (seat : SeatId) : Prop :=
  attempt.acquiredAt + shieldLease < now ∨ seat ∈ attempt.lost

namespace ShieldWorld

def setAttempt
    (world : ShieldWorld)
    (token : Uuid)
    (attempt : ShieldAttempt) : ShieldWorld :=
  { world with
    attempts := Function.update world.attempts token (some attempt) }

/-- Steps of all attempts, of the clock and of Redis. -/
inductive Step (world : ShieldWorld) : ShieldAction → ShieldWorld → Prop where
  -- A client that loses the reply raises, and its attempt never releases.
  | acquired
      {token : Uuid}
      {seats : List SeatId}
      (fresh : world.attempts token = none)
      (succeeds :
        (world.keys.acquire world.now seats token shieldLease).1 = true) :
      Step world (.acquire token seats)
        ({ world with
          keys :=
            (world.keys.acquire world.now seats token shieldLease).2
          }.setAttempt token {
            seats := seats
            acquiredAt := world.now })
  | busy
      {token : Uuid}
      {seats : List SeatId}
      (fails :
        (world.keys.acquire world.now seats token shieldLease).1 = false) :
      Step world (.acquire token seats)
        { world with
          keys :=
            (world.keys.acquire world.now seats token shieldLease).2 }
  | release
      {token : Uuid}
      {attempt : ShieldAttempt}
      (isAttempt : world.attempts token = some attempt) :
      Step world (.release token)
        ({ world with
          keys := world.keys.release world.now attempt.seats token
          }.setAttempt token { attempt with released := true })
  | wait
      {later : Int}
      (passes : world.now ≤ later) :
      Step world (.wait later) { world with now := later }
  | lose
      {seat : SeatId}
      {key : ShieldKey}
      {attempt : ShieldAttempt}
      (isKey : world.keys seat = some key)
      (isAttempt : world.attempts key.token = some attempt) :
      Step world (.lose seat)
        ({ world with keys := world.keys.del seat }.setAttempt key.token
          { attempt with lost := seat :: attempt.lost })

/-- The attempt has a lease on the seat that is neither over nor released. -/
def Leased
    (world : ShieldWorld)
    (token : Uuid)
    (seat : SeatId) : Prop :=
  ∃ attempt,
    world.attempts token = some attempt ∧
      seat ∈ attempt.seats ∧
      attempt.released = false ∧
      ¬ attempt.Expired world.now seat

/-- Redis shows the current leases and no other key. -/
structure Shielded (world : ShieldWorld) : Prop where
  shown :
    ∀ seat key,
      world.keys seat = some key →
      world.now ≤ key.expiresAt →
      ∃ attempt,
        world.attempts key.token = some attempt ∧
          seat ∈ attempt.seats ∧
          attempt.released = false ∧
          seat ∉ attempt.lost ∧
          key.expiresAt = attempt.acquiredAt + shieldLease
  leased :
    ∀ token attempt seat,
      world.attempts token = some attempt →
      seat ∈ attempt.seats →
      attempt.released = false →
      ¬ attempt.Expired world.now seat →
      world.keys seat =
        some ⟨token, attempt.acquiredAt + shieldLease⟩

variable
  {world after : ShieldWorld}
  {token : Uuid}
  {seats : List SeatId}
  {attempt : ShieldAttempt}
  {seat : SeatId}

/-- A lease can be seen in Redis. -/
theorem Shielded.get_eq
    (shielded : world.Shielded)
    (isAttempt : world.attempts token = some attempt)
    (wanted : seat ∈ attempt.seats)
    (unreleased : attempt.released = false)
    (unexpired : ¬ attempt.Expired world.now seat) :
    world.keys.get world.now seat = some token := by
  apply Shields.get_eq_some.mpr
  have isKey :=
    shielded.leased token attempt seat isAttempt wanted unreleased unexpired
  exact ⟨_, isKey, not_lt.mp fun ended => unexpired (Or.inl ended)⟩

theorem Shielded.acquired
    (shielded : world.Shielded)
    (fresh : world.attempts token = none)
    (succeeds :
      (world.keys.acquire world.now seats token shieldLease).1 = true) :
    ({ world with
      keys := (world.keys.acquire world.now seats token shieldLease).2
      }.setAttempt token {
        seats := seats
        acquiredAt := world.now }).Shielded := by
  obtain ⟨free, isSet⟩ := Shields.acquire_succeeded succeeds
  constructor
  · intro seat key isKey alive
    simp only [setAttempt, isSet] at isKey alive ⊢
    split at isKey
    · rename_i wanted
      cases isKey
      exact ⟨_, Function.update_self token _ _, wanted, rfl,
        List.not_mem_nil, rfl⟩
    · obtain ⟨attempt, isAttempt, rest⟩ :=
        shielded.shown seat key isKey alive
      refine ⟨attempt, ?_, rest⟩
      rw [Function.update_of_ne ?_]
      · exact isAttempt
      · intro same
        rw [same, fresh] at isAttempt
        cases isAttempt
  · intro other attempt seat isAttempt wanted unreleased unexpired
    simp only [setAttempt, isSet] at isAttempt unexpired ⊢
    by_cases same : other = token
    · subst same
      rw [Function.update_self] at isAttempt
      cases isAttempt
      exact if_pos wanted
    · rw [Function.update_of_ne same] at isAttempt
      have isShown :=
        shielded.get_eq isAttempt wanted unreleased unexpired
      rw [if_neg ?_]
      · exact shielded.leased other attempt seat isAttempt wanted unreleased
          unexpired
      · intro taken
        rw [free seat taken] at isShown
        cases isShown

theorem Shielded.released
    (shielded : world.Shielded)
    (isAttempt : world.attempts token = some attempt) :
    ({ world with
      keys := world.keys.release world.now attempt.seats token
      }.setAttempt token { attempt with released := true }).Shielded := by
  constructor
  · intro seat key isKey alive
    simp only [setAttempt, Shields.release_apply] at isKey alive ⊢
    split at isKey
    · cases isKey
    · rename_i kept
      obtain ⟨owner, isOwner, wanted, rest⟩ :=
        shielded.shown seat key isKey alive
      refine ⟨owner, ?_, wanted, rest⟩
      rw [Function.update_of_ne ?_]
      · exact isOwner
      · intro same
        cases isAttempt.symm.trans (same ▸ isOwner)
        apply kept
        refine ⟨wanted, Shields.get_eq_some.mpr ⟨key.expiresAt, ?_, alive⟩⟩
        rw [isKey, ← same]
  · intro other owner seat isOwner wanted unreleased unexpired
    simp only [setAttempt, Shields.release_apply] at isOwner unexpired ⊢
    by_cases same : other = token
    · subst same
      rw [Function.update_self] at isOwner
      cases isOwner
      cases unreleased
    · rw [Function.update_of_ne same] at isOwner
      have isShown := shielded.get_eq isOwner wanted unreleased unexpired
      rw [if_neg ?_]
      · exact shielded.leased other owner seat isOwner wanted unreleased
          unexpired
      · intro own
        exact same (Option.some.inj (isShown.symm.trans own.2))

theorem Shielded.waited
    {later : Int}
    (shielded : world.Shielded)
    (passes : world.now ≤ later) :
    { world with now := later }.Shielded := by
  constructor
  · intro seat key isKey alive
    exact shielded.shown seat key isKey (le_trans passes alive)
  · intro token attempt seat isAttempt wanted unreleased unexpired
    apply shielded.leased token attempt seat isAttempt wanted unreleased
    intro expired
    apply unexpired
    exact expired.imp_left fun ended => lt_of_lt_of_le ended passes

theorem Shielded.lost
    {key : ShieldKey}
    (shielded : world.Shielded)
    (isKey : world.keys seat = some key)
    (isAttempt : world.attempts key.token = some attempt) :
    ({ world with keys := world.keys.del seat }.setAttempt key.token
      { attempt with lost := seat :: attempt.lost }).Shielded := by
  constructor
  · intro other otherKey isOther alive
    simp only [setAttempt] at isOther alive ⊢
    have differs : other ≠ seat := by
      intro same
      rw [same, Shields.del_self] at isOther
      cases isOther
    rw [Shields.del_of_ne differs] at isOther
    obtain ⟨owner, isOwner, wanted, unreleased, present, deadline⟩ :=
      shielded.shown other otherKey isOther alive
    by_cases same : otherKey.token = key.token
    · rw [same] at isOwner ⊢
      cases isAttempt.symm.trans isOwner
      refine ⟨_, Function.update_self key.token _ _, wanted, unreleased, ?_,
        deadline⟩
      exact List.not_mem_cons_of_ne_of_not_mem differs present
    · rw [Function.update_of_ne same]
      exact ⟨owner, isOwner, wanted, unreleased, present, deadline⟩
  · intro token owner other isOwner wanted unreleased unexpired
    simp only [setAttempt] at isOwner unexpired ⊢
    by_cases same : token = key.token
    · subst same
      rw [Function.update_self] at isOwner
      cases isOwner
      have differs : other ≠ seat := by
        intro isSeat
        exact unexpired (Or.inr (isSeat ▸ List.mem_cons_self))
      rw [Shields.del_of_ne differs]
      apply shielded.leased key.token attempt other isAttempt wanted
        unreleased
      intro expired
      exact unexpired (expired.imp_right (List.mem_cons_of_mem seat))
    · rw [Function.update_of_ne same] at isOwner
      have isLeased :=
        shielded.leased token owner other isOwner wanted unreleased unexpired
      rw [Shields.del_of_ne ?_]
      · exact isLeased
      · intro isSeat
        rw [isSeat, isKey] at isLeased
        cases isLeased
        exact same rfl

theorem shielded_initial
    (start : Int) :
    ({ now := start } : ShieldWorld).Shielded := by
  constructor
  · intro seat key isKey
    cases isKey
  · intro token attempt seat isAttempt
    cases isAttempt

theorem Shielded.step
    {action : ShieldAction}
    (shielded : world.Shielded)
    (step : world.Step action after) :
    after.Shielded := by
  cases step with
  | acquired fresh succeeds => exact shielded.acquired fresh succeeds
  | busy fails =>
      rw [Shields.acquire_failed fails]
      exact shielded
  | release isAttempt => exact shielded.released isAttempt
  | wait passes => exact shielded.waited passes
  | lose isKey isAttempt => exact shielded.lost isKey isAttempt

/--
Whatever attempts, releases and losses came before: a failed `ACQUIRE` changes
no key, at most one attempt has a lease on a seat, a `RELEASE` deletes exactly
the keys that still hold its token, and no key outlives its attempt.
-/
theorem shields_exclude_and_fence
    {start : Int}
    {actions : List ShieldAction}
    (run : Run Step { now := start } actions world) :
    (∀ seats token,
      (world.keys.acquire world.now seats token shieldLease).1 = false →
      (world.keys.acquire world.now seats token shieldLease).2 =
        world.keys) ∧
    (∀ first second seat,
      world.Leased first seat →
      world.Leased second seat →
      first = second) ∧
    (∀ seats token seat,
      world.keys.release world.now seats token seat =
        if seat ∈ seats ∧ world.keys.get world.now seat = some token then
          none
        else
          world.keys seat) ∧
    (∀ token attempt other seat,
      world.attempts token = some attempt →
      other ≠ token →
      world.keys.get world.now seat = some other →
      (world.keys.release world.now attempt.seats token).get world.now seat =
        some other) ∧
    ((∀ token attempt seat,
        world.attempts token = some attempt →
        seat ∈ attempt.seats →
        attempt.released = true ∨ attempt.Expired world.now seat) →
      ∀ seat, world.keys.get world.now seat = none) := by
  have shielded : world.Shielded :=
    run.invariant (shielded_initial start) fun holds step => holds.step step
  refine ⟨?_, ?_, ?_, ?_, ?_⟩
  · intro seats token fails
    exact Shields.acquire_failed fails
  · rintro first second seat
      ⟨_, isFirst, firstWants, firstUnreleased, firstUnexpired⟩
      ⟨_, isSecond, secondWants, secondUnreleased, secondUnexpired⟩
    have firstShown :=
      shielded.get_eq isFirst firstWants firstUnreleased firstUnexpired
    have secondShown :=
      shielded.get_eq isSecond secondWants secondUnreleased secondUnexpired
    exact Option.some.inj (firstShown.symm.trans secondShown)
  · intro seats token seat
    exact Shields.release_apply world.keys world.now seats token seat
  · intro token attempt other seat _ differs isShown
    have kept :
        world.keys.release world.now attempt.seats token seat =
          world.keys seat := by
      rw [Shields.release_apply, if_neg]
      intro own
      exact differs (Option.some.inj (isShown.symm.trans own.2))
    rw [Shields.get_congr kept]
    exact isShown
  · intro ended seat
    cases isShown : world.keys.get world.now seat with
    | none => rfl
    | some token =>
        obtain ⟨expiresAt, isKey, alive⟩ := Shields.get_eq_some.mp isShown
        obtain ⟨attempt, isAttempt, wanted, unreleased, present, deadline⟩ :=
          shielded.shown seat _ isKey alive
        rcases ended token attempt seat isAttempt wanted with
          released | passed | lost
        · rw [unreleased] at released
          cases released
        · change expiresAt = _ at deadline
          omega
        · exact absurd lost present

/-- The keys once an attempt has taken two seats. -/
def firstKeys : Shields :=
  (Shields.acquire (fun _ => none) 0 ["A", "B"] 1 shieldLease).2

/-- The lease of the first attempt is over. -/
def firstOver : ShieldWorld :=
  { ShieldWorld.setAttempt { now := 0, keys := firstKeys } 1 {
      seats := ["A", "B"]
      acquiredAt := 0 } with
    now := 2001 }

/-- A second attempt has taken one of the seats. -/
def takenOver : ShieldWorld :=
  { firstOver with
    keys := (firstOver.keys.acquire 2001 ["B"] 2 shieldLease).2
    }.setAttempt 2 {
      seats := ["B"]
      acquiredAt := 2001 }

theorem run_takenOver :
    Run Step { now := 0 }
      [.acquire 1 ["A", "B"], .wait 2001, .acquire 2 ["B"]] takenOver :=
  .cons (.acquired rfl rfl) (.cons (.wait (by decide))
    (.cons (.acquired rfl rfl) (.nil _)))

/-- The late release of the first attempt leaves the key of the second. -/
theorem shields_exclude_and_fence_takenOver :
    Run Step { now := 0 }
        [.acquire 1 ["A", "B"], .wait 2001, .acquire 2 ["B"]] takenOver ∧
      takenOver.attempts 1 = some ⟨["A", "B"], 0, false, []⟩ ∧
      takenOver.keys.get takenOver.now "B" = some 2 ∧
      (takenOver.keys.release takenOver.now ["A", "B"] 1).get takenOver.now
        "B" = some 2 := by
  have late :=
    (shields_exclude_and_fence run_takenOver).2.2.2.1 1
      ⟨["A", "B"], 0, false, []⟩ 2 "B" rfl (by decide) (by decide)
  exact ⟨run_takenOver, rfl, by decide, late⟩

/-- In its last millisecond a lease still keeps others out. -/
example : (firstKeys.acquire 2000 ["B"] 2 shieldLease).1 = false := by decide

end ShieldWorld

end FlashTicketing
