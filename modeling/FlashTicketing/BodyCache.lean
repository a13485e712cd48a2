import FlashTicketing.EntityTags
import FlashTicketing.OrderedDict
import FlashTicketing.Transition

namespace FlashTicketing

open Transition

/-!
# The cache of encoded bodies

`browse_encoded` keeps encoded bodies by event and representation, and lets
Redis confirm the tag of a cached body by adding it to the client's header.  A
call takes three steps: a lookup under the lock, one `BROWSE`, and for a body
that is not cached an insertion under the lock.  The steps of all calls and any
changes of the maps interleave.

Equal tags are assumed to stand for equal bodies.
-/

/-! ## `BROWSE` on texts -/

/-- The body of either representation. -/
inductive BrowseBody where
  | layout (layout : Layout)
  | availability (body : AvailabilityBody)
  deriving Repr, DecidableEq

inductive BrowseReply where
  | warming
  | notModified (tag : String)
  | found (tag : String) (body : BrowseBody)

/-- What the script returns to a client without a tag, or `none` for `503`. -/
def SeatMap.shown
    (map : SeatMap)
    (eventId : Uuid)
    (kind : Representation) : Option (ETag × BrowseBody) :=
  match map.browse eventId kind [] with
  | .layout tag layout => some (tag, .layout layout)
  | .availability tag body => some (tag, .availability body)
  | _ => none

/-- The script answers other candidates with the same tag and body. -/
theorem SeatMap.browse_eq_shown
    (map : SeatMap)
    (eventId : Uuid)
    (kind : Representation)
    (validators : List Validator) :
    map.browse eventId kind validators =
      match map.shown eventId kind with
      | none => .warming
      | some (tag, body) =>
          if validators.any (·.accepts tag) then
            .notModified tag
          else
            match body with
            | .layout layout => .layout tag layout
            | .availability body => .availability tag body := by
  unfold shown SeatMap.browse
  cases map.version <;> cases map.incarnation <;> cases map.updating <;>
    cases map.layout <;> cases kind <;> simp

/-- `browse(event, kind, if_none_match)` on the texts of tags. -/
def SeatMap.browseText
    (map : SeatMap)
    (texts : TagTexts)
    (eventId : Uuid)
    (kind : Representation)
    (ifNoneMatch : Option String) : BrowseReply :=
  match map.shown eventId kind with
  | none => .warming
  | some (tag, body) =>
      if Matches (candidates (ifNoneMatch.getD "")) (tag.text texts) then
        .notModified (tag.text texts)
      else
        .found (tag.text texts) body

/-! ## The cache -/

/-- The bytes of a JSON document. -/
abbrev Encoded := List UInt8

/-- `browse_entries` and `browse_bytes`. -/
structure BrowseLimits where
  entries : Nat
  bytes : Nat

/-- `_bodies` and `_body_bytes`. -/
structure BodyCache where
  bodies : OrderedDict (Uuid × Representation) (String × Encoded)
  bytes : Int

namespace BodyCache

def empty : BodyCache where
  bodies := .empty
  bytes := 0

/-- The lookup of a call. -/
def lookup
    (cache : BodyCache)
    (key : Uuid × Representation) :
    Option (String × Encoded) × BodyCache :=
  (cache.bodies.get? key,
    { cache with bodies := cache.bodies.moveToEnd key })

/-- The condition of the eviction loop fails. -/
def Fits (limits : BrowseLimits) (cache : BodyCache) : Prop :=
  cache.bodies.items.length ≤ limits.entries ∧ cache.bytes ≤ limits.bytes

instance (limits : BrowseLimits) (cache : BodyCache) :
    Decidable (cache.Fits limits) :=
  inferInstanceAs (Decidable (_ ∧ _))

/-- Some rounds of the eviction loop; `none` if `popitem` finds no item. -/
def evictLoop (limits : BrowseLimits) : Nat → BodyCache → Option BodyCache
  | 0, cache => if cache.Fits limits then some cache else none
  | rounds + 1, cache =>
      if cache.Fits limits then
        some cache
      else
        match cache.bodies.popFirst? with
        | none => none
        | some ((_, removed), rest) =>
            evictLoop limits rounds {
              bodies := rest
              bytes := cache.bytes - removed.2.length }

/-- The eviction loop pops each item at most once. -/
def evict (limits : BrowseLimits) (cache : BodyCache) : Option BodyCache :=
  evictLoop limits cache.bodies.items.length cache

/-- The insertion of a call. -/
def insert
    (limits : BrowseLimits)
    (cache : BodyCache)
    (key : Uuid × Representation)
    (tag : String)
    (encoded : Encoded) : Option BodyCache :=
  let previous := cache.bodies.get? key
  let popped : BodyCache := {
    bodies := cache.bodies.pop key
    bytes :=
      cache.bytes -
        ((previous.map fun old => old.2.length).getD 0 : Nat) }
  if limits.entries ≠ 0 ∧ encoded.length ≤ limits.bytes then
    evict limits {
      bodies :=
        popped.bodies.append key (tag, encoded)
          (cache.bodies.pop_absent key)
      bytes := popped.bytes + encoded.length }
  else
    some popped

end BodyCache

/-! ## Calls -/

structure BrowseRequest where
  eventId : Uuid
  kind : Representation
  ifNoneMatch : Option String

namespace BrowseRequest

def key (request : BrowseRequest) : Uuid × Representation :=
  (request.eventId, request.kind)

/-- `if_none_match or ""`. -/
def header (request : BrowseRequest) : String :=
  request.ifNoneMatch.getD ""

/-- The header with the tag of the cached body. -/
def validators
    (request : BrowseRequest)
    (cached : Option (String × Encoded)) : String :=
  match cached with
  | some (tag, _) => request.header ++ "," ++ tag
  | none => request.header

end BrowseRequest

/-- What a call returns; it crashes if an assertion or `popitem` fails. -/
inductive BrowseOutcome where
  | warming
  | notModified (tag : String)
  | found (tag : String) (encoded : Encoded)
  | crashed

/--
A call after its lookup, before its insertion, or at its end.  From its `BROWSE`
on it carries the map that the script has seen.
-/
inductive BrowseCall where
  | looked (request : BrowseRequest) (cached : Option (String × Encoded))
  | inserting
      (request : BrowseRequest)
      (map : SeatMap)
      (tag : String)
      (encoded : Encoded)
  | answered
      (request : BrowseRequest)
      (map : SeatMap)
      (outcome : BrowseOutcome)

/-- A reply with its body encoded. -/
def BrowseReply.outcome
    (encode : BrowseBody → Encoded) : BrowseReply → BrowseOutcome
  | .warming => .warming
  | .notModified tag => .notModified tag
  | .found tag body => .found tag (encode body)

/-- `browse` with the client's own header, then JSON encoding. -/
def SeatMap.uncached
    (map : SeatMap)
    (texts : TagTexts)
    (encode : BrowseBody → Encoded)
    (request : BrowseRequest) : BrowseOutcome :=
  (map.browseText texts request.eventId request.kind
    request.ifNoneMatch).outcome encode

/-- The `BROWSE` of a call and what the call makes of the reply. -/
def BrowseRequest.afterBrowse
    (request : BrowseRequest)
    (texts : TagTexts)
    (encode : BrowseBody → Encoded)
    (cached : Option (String × Encoded))
    (map : SeatMap) : BrowseCall :=
  match map.browseText texts request.eventId request.kind
      (some (request.validators cached)) with
  | .warming => .answered request map .warming
  | .notModified tag =>
      if Matches (candidates request.header) tag then
        .answered request map (.notModified tag)
      else
        match cached with
        | some (cachedTag, encoded) =>
            if cachedTag = tag then
              .answered request map (.found tag encoded)
            else
              .answered request map .crashed
        | none => .answered request map .crashed
  | .found tag body => .inserting request map tag (encode body)

/-! ## Interleavings -/

structure EncodedWorld where
  maps : Uuid → SeatMap
  cache : BodyCache := .empty
  calls : Nat → Option BrowseCall := fun _ => none

inductive EncodedAction where
  | lookup (slot : Nat) (request : BrowseRequest)
  | browse (slot : Nat)
  | insert (slot : Nat)
  | change

def EncodedWorld.setCall
    (world : EncodedWorld)
    (slot : Nat)
    (call : BrowseCall) : EncodedWorld :=
  { world with calls := Function.update world.calls slot (some call) }

section

variable
  (texts : TagTexts)
  (encode : BrowseBody → Encoded)
  (limits : BrowseLimits)
  (bodyOf : Uuid × Representation → String → BrowseBody)

/-- Every map shows the body that belongs to its tag. -/
def Agrees (maps : Uuid → SeatMap) : Prop :=
  ∀ eventId kind tag body,
    (maps eventId).shown eventId kind = some (tag, body) →
    bodyOf (eventId, kind) (tag.text texts) = body

inductive EncodedWorld.Step (world : EncodedWorld) :
    EncodedAction → EncodedWorld → Prop where
  | lookup
      {slot : Nat}
      {request : BrowseRequest}
      (free : world.calls slot = none) :
      Step world (.lookup slot request)
        ({ world with cache := (world.cache.lookup request.key).2 }.setCall
          slot (.looked request (world.cache.lookup request.key).1))
  | browse
      {slot : Nat}
      {request : BrowseRequest}
      {cached : Option (String × Encoded)}
      (looked : world.calls slot = some (.looked request cached)) :
      Step world (.browse slot)
        (world.setCall slot (request.afterBrowse texts encode cached
          (world.maps request.eventId)))
  | insert
      {slot : Nat}
      {request : BrowseRequest}
      {map : SeatMap}
      {tag : String}
      {encoded : Encoded}
      {cache : BodyCache}
      (inserting :
        world.calls slot = some (.inserting request map tag encoded))
      (inserted :
        world.cache.insert limits request.key tag encoded = some cache) :
      Step world (.insert slot)
        ({ world with cache := cache }.setCall slot
          (.answered request map (.found tag encoded)))
  -- `popitem` raises `KeyError`.
  | insertFails
      {slot : Nat}
      {request : BrowseRequest}
      {map : SeatMap}
      {tag : String}
      {encoded : Encoded}
      {cache : BodyCache}
      (inserting :
        world.calls slot = some (.inserting request map tag encoded))
      (failed :
        world.cache.insert limits request.key tag encoded = none) :
      Step world (.insert slot)
        ({ world with cache := cache }.setCall slot
          (.answered request map .crashed))
  | change
      {maps : Uuid → SeatMap}
      (agrees : Agrees texts bodyOf maps) :
      Step world .change { world with maps := maps }

end

/-- No call has begun and nothing is cached. -/
structure EncodedWorld.Initial
    (texts : TagTexts)
    (bodyOf : Uuid × Representation → String → BrowseBody)
    (world : EncodedWorld) : Prop where
  agrees : Agrees texts bodyOf world.maps
  cache : world.cache = .empty
  calls : ∀ slot, world.calls slot = none

/-! ## Counted bytes -/

namespace BodyCache

/-- `_body_bytes` is the size of the retained bodies. -/
def Counted (cache : BodyCache) : Prop :=
  cache.bytes = cache.bodies.total fun cached => cached.2.length

variable
  {cache : BodyCache}
  {limits : BrowseLimits}

theorem counted_empty : Counted empty :=
  rfl

theorem Counted.lookup
    (counted : cache.Counted)
    (key : Uuid × Representation) :
    (cache.lookup key).2.Counted := by
  change cache.bytes = (cache.bodies.moveToEnd key).total _
  rw [counted, OrderedDict.total_moveToEnd]

/-- An empty cache has no bytes. -/
theorem Counted.fits_of_empty
    (counted : cache.Counted)
    (isEmpty : cache.bodies.items = []) :
    cache.Fits limits := by
  constructor
  · rw [isEmpty]
    exact Nat.zero_le _
  · rw [counted, OrderedDict.total, isEmpty]
    exact Int.natCast_nonneg _

/-- A round of the eviction keeps the count. -/
theorem Counted.popFirst
    {item : (Uuid × Representation) × (String × Encoded)}
    {rest : OrderedDict (Uuid × Representation) (String × Encoded)}
    (counted : cache.Counted)
    (popped : cache.bodies.popFirst? = some (item, rest)) :
    Counted {
      bodies := rest
      bytes := cache.bytes - item.2.2.length } := by
  have items := OrderedDict.popFirst?_eq_some popped
  rw [Counted, OrderedDict.total, items, List.map_cons, List.sum_cons]
    at counted
  change cache.bytes - _ =
    (((rest.items.map fun cached => cached.2.2.length).sum : Nat) : Int)
  omega

/-- The cache without the key that a call inserts. -/
theorem Counted.pop
    (counted : cache.Counted)
    (key : Uuid × Representation) :
    Counted {
      bodies := cache.bodies.pop key
      bytes := cache.bytes -
        (((cache.bodies.get? key).map fun old => old.2.length).getD 0 :
          Nat) } := by
  rw [Counted, OrderedDict.total_pop _ _ key] at counted
  change cache.bytes - _ = (((cache.bodies.pop key).total _ : Nat) : Int)
  omega

theorem Counted.append
    {key : Uuid × Representation}
    (counted : cache.Counted)
    (tag : String)
    (encoded : Encoded)
    (absent : ∀ item ∈ cache.bodies.items, item.1 ≠ key) :
    Counted {
      bodies := cache.bodies.append key (tag, encoded) absent
      bytes := cache.bytes + encoded.length } := by
  change cache.bytes + _ = _
  rw [OrderedDict.total_append, counted]
  exact (Int.natCast_add _ _).symm

/-- The limits allow these items. -/
def Allowed
    (limits : BrowseLimits)
    (items : List ((Uuid × Representation) × (String × Encoded))) : Prop :=
  items.length ≤ limits.entries ∧
    (items.map fun item => item.2.2.length).sum ≤ limits.bytes

theorem Allowed.perm
    {items others : List ((Uuid × Representation) × (String × Encoded))}
    (allowed : Allowed limits items)
    (same : others.Perm items) :
    Allowed limits others := by
  unfold Allowed
  rw [same.length_eq, (same.map _).sum_eq]
  exact allowed

theorem Counted.fits_iff
    (counted : cache.Counted) :
    cache.Fits limits ↔ Allowed limits cache.bodies.items := by
  rw [Fits, counted, Int.ofNat_le]
  rfl

/-- The oldest items left, each of them because the limits required it. -/
structure Evicted
    (limits : BrowseLimits)
    (cache kept : BodyCache)
    (gone : List ((Uuid × Representation) × (String × Encoded))) :
    Prop where
  items : cache.bodies.items = gone ++ kept.bodies.items
  counted : kept.Counted
  allowed : Allowed limits kept.bodies.items
  required :
    ∀ earlier later,
      gone = earlier ++ later →
      later ≠ [] →
      ¬ Allowed limits (later ++ kept.bodies.items)

theorem Counted.evicted_nil
    (counted : cache.Counted)
    (fitting : cache.Fits limits) :
    Evicted limits cache cache [] where
  items := rfl
  counted := counted
  allowed := counted.fits_iff.mp fitting
  required := by
    intro earlier later isNil nonempty
    exact absurd (List.append_eq_nil_iff.mp isNil.symm).2 nonempty

/-- The loop ends before `popitem` finds the cache empty. -/
theorem Counted.evictLoop
    (limits : BrowseLimits)
    {rounds : Nat}
    (counted : cache.Counted)
    (enough : cache.bodies.items.length ≤ rounds) :
    ∃ kept gone,
      evictLoop limits rounds cache = some kept ∧
        Evicted limits cache kept gone := by
  induction rounds generalizing cache with
  | zero =>
      have isEmpty := List.eq_nil_of_length_eq_zero (Nat.le_zero.mp enough)
      have fitting : cache.Fits limits := counted.fits_of_empty isEmpty
      exact ⟨cache, [], if_pos fitting, counted.evicted_nil fitting⟩
  | succ rounds inductionHypothesis =>
      rw [BodyCache.evictLoop]
      by_cases fitting : cache.Fits limits
      · rw [if_pos fitting]
        exact ⟨cache, [], rfl, counted.evicted_nil fitting⟩
      · rw [if_neg fitting]
        cases popped : cache.bodies.popFirst? with
        | none =>
            have isEmpty := OrderedDict.popFirst?_eq_none popped
            exact absurd (counted.fits_of_empty isEmpty) fitting
        | some first =>
            obtain ⟨item, rest⟩ := first
            have items := OrderedDict.popFirst?_eq_some popped
            rw [items, List.length_cons] at enough
            obtain ⟨kept, gone, isKept, evicted⟩ :=
              inductionHypothesis (counted.popFirst popped)
                (Nat.le_of_succ_le_succ enough)
            have isItems :
                cache.bodies.items = item :: gone ++ kept.bodies.items := by
              rw [items, evicted.items]
              rfl
            refine ⟨kept, item :: gone, isKept, isItems, evicted.counted,
              evicted.allowed, ?_⟩
            intro earlier later isGone nonempty
            cases earlier with
            | nil =>
                rw [← List.nil_append later, ← isGone, ← isItems,
                  ← counted.fits_iff]
                exact fitting
            | cons first others =>
                cases isGone
                exact evicted.required others later rfl nonempty

/-- The insertion leaves the key out, or appends it and evicts. -/
theorem Counted.insert
    (limits : BrowseLimits)
    (counted : cache.Counted)
    (key : Uuid × Representation)
    (tag : String)
    (encoded : Encoded) :
    ∃ after,
      cache.insert limits key tag encoded = some after ∧
        if limits.entries ≠ 0 ∧ encoded.length ≤ limits.bytes then
          ∃ gone appended,
            appended.bodies = cache.bodies.refresh key (tag, encoded) ∧
              Evicted limits appended after gone
        else
          after.Counted ∧ after.bodies = cache.bodies.pop key := by
  have popped := counted.pop key
  rw [BodyCache.insert]
  dsimp only
  by_cases stored : limits.entries ≠ 0 ∧ encoded.length ≤ limits.bytes
  · have appended :=
      popped.append tag encoded (cache.bodies.pop_absent key)
    obtain ⟨after, gone, isAfter, evicted⟩ :=
      appended.evictLoop limits (Nat.le_refl _)
    simp only [if_pos stored]
    exact ⟨after, isAfter, gone, _, rfl, evicted⟩
  · simp only [if_neg stored]
    exact ⟨_, rfl, popped, rfl⟩

end BodyCache

/-! ## Coherent caches -/

section Coherence

variable
  {texts : TagTexts}
  {encode : BrowseBody → Encoded}
  {limits : BrowseLimits}
  {bodyOf : Uuid × Representation → String → BrowseBody}

/-- A cached body belongs to its tag, which is the text of some tag. -/
structure Coherent
    (texts : TagTexts)
    (encode : BrowseBody → Encoded)
    (bodyOf : Uuid × Representation → String → BrowseBody)
    (key : Uuid × Representation)
    (cached : String × Encoded) : Prop where
  tag : ∃ tag : ETag, cached.1 = tag.text texts
  encoded : cached.2 = encode (bodyOf key cached.1)

namespace BodyCache

/-- Every item is coherent, and the bytes are counted. -/
structure Sound
    (texts : TagTexts)
    (encode : BrowseBody → Encoded)
    (bodyOf : Uuid × Representation → String → BrowseBody)
    (cache : BodyCache) : Prop where
  coherent :
    ∀ item ∈ cache.bodies.items,
      Coherent texts encode bodyOf item.1 item.2
  counted :
    cache.bytes = cache.bodies.total fun cached => cached.2.length

variable {cache : BodyCache}

theorem sound_empty : Sound texts encode bodyOf empty :=
  ⟨nofun, counted_empty⟩

theorem Sound.lookup
    (sound : cache.Sound texts encode bodyOf)
    (key : Uuid × Representation) :
    (cache.lookup key).2.Sound texts encode bodyOf ∧
      ∀ cached,
        (cache.lookup key).1 = some cached →
        Coherent texts encode bodyOf key cached := by
  refine ⟨⟨?_, Counted.lookup sound.counted key⟩, ?_⟩
  · intro item member
    exact sound.coherent item (OrderedDict.mem_moveToEnd member)
  · intro cached found
    exact sound.coherent _ (OrderedDict.mem_of_get? found)

theorem Sound.insert
    {key : Uuid × Representation}
    {tag : String}
    {encoded : Encoded}
    (sound : cache.Sound texts encode bodyOf)
    (coherent : Coherent texts encode bodyOf key (tag, encoded)) :
    ∃ after,
      cache.insert limits key tag encoded = some after ∧
        after.Sound texts encode bodyOf := by
  obtain ⟨after, inserted, isAfter⟩ :=
    Counted.insert limits sound.counted key tag encoded
  refine ⟨after, inserted, ?_⟩
  split at isAfter
  · obtain ⟨gone, appended, isAppended, evicted⟩ := isAfter
    refine ⟨?_, evicted.counted⟩
    intro item member
    have kept : item ∈ appended.bodies.items := by
      rw [evicted.items]
      exact List.mem_append_right gone member
    rw [isAppended] at kept
    rcases OrderedDict.mem_refresh kept with old | rfl
    · exact sound.coherent item old
    · exact coherent
  · refine ⟨?_, isAfter.1⟩
    intro item member
    rw [isAfter.2] at member
    exact sound.coherent item (List.mem_filter.mp member).1

end BodyCache

/-- What holds of a call at each of its points. -/
def BrowseCall.Sound
    (texts : TagTexts)
    (encode : BrowseBody → Encoded)
    (bodyOf : Uuid × Representation → String → BrowseBody) :
    BrowseCall → Prop
  | .looked request cached =>
      ∀ body,
        cached = some body → Coherent texts encode bodyOf request.key body
  | .inserting request map tag encoded =>
      Coherent texts encode bodyOf request.key (tag, encoded) ∧
        map.uncached texts encode request = .found tag encoded
  | .answered request map outcome =>
      outcome = map.uncached texts encode request ∧ outcome ≠ .crashed

variable
  {request : BrowseRequest}
  {cached : Option (String × Encoded)}
  {map : SeatMap}

/-- The cached tag is one more candidate and no other. -/
theorem matches_validators
    (coherent :
      ∀ body,
        cached = some body → Coherent texts encode bodyOf request.key body)
    (tag : ETag) :
    Matches (candidates (request.validators cached)) (tag.text texts) ↔
      Matches (candidates request.header) (tag.text texts) ∨
        ∃ body, cached = some body ∧ body.1 = tag.text texts := by
  cases cached with
  | none => simp [BrowseRequest.validators]
  | some body =>
      obtain ⟨other, isTag⟩ := (coherent body rfl).tag
      have quoted : Quoted body.1 := isTag ▸ other.text_quoted texts
      have notAny : "*" ≠ body.1 := quoted.ne_any.symm
      change Matches (candidates (request.header ++ "," ++ body.1)) _ ↔ _
      rw [quoted.candidates_append]
      simp [Matches, notAny, or_assoc, eq_comm]

theorem uncached_warming
    (warming : map.shown request.eventId request.kind = none) :
    map.uncached texts encode request = .warming := by
  rw [SeatMap.uncached, SeatMap.browseText, warming]
  rfl

/-- The uncached path while the map can be browsed. -/
theorem uncached_shown
    {tag : ETag}
    {body : BrowseBody}
    (shown : map.shown request.eventId request.kind = some (tag, body)) :
    map.uncached texts encode request =
      if Matches (candidates request.header) (tag.text texts) then
        .notModified (tag.text texts)
      else
        .found (tag.text texts) (encode body) := by
  unfold SeatMap.uncached SeatMap.browseText
  rw [shown]
  change BrowseReply.outcome encode
    (if Matches (candidates request.header) (tag.text texts) then _ else _) = _
  by_cases client : Matches (candidates request.header) (tag.text texts)
  · rw [if_pos client, if_pos client]
    rfl
  · rw [if_neg client, if_neg client]
    rfl

/-- The reply of Redis is attributed to the client or to the cache. -/
theorem afterBrowse_sound
    (agrees :
      ∀ tag body,
        map.shown request.eventId request.kind = some (tag, body) →
        bodyOf request.key (tag.text texts) = body)
    (coherent :
      ∀ body,
        cached = some body → Coherent texts encode bodyOf request.key body) :
    (request.afterBrowse texts encode cached map).Sound texts encode
      bodyOf := by
  unfold BrowseRequest.afterBrowse SeatMap.browseText
  cases shown : map.shown request.eventId request.kind with
  | none =>
      exact ⟨(uncached_warming shown).symm, nofun⟩
  | some pair =>
      obtain ⟨tag, body⟩ := pair
      have isBody := agrees tag body shown
      dsimp only [Option.getD_some]
      by_cases client : Matches (candidates request.header) (tag.text texts)
      · have answer :
            map.uncached texts encode request =
              .notModified (tag.text texts) := by
          rw [uncached_shown shown, if_pos client]
        rw [if_pos ((matches_validators coherent tag).mpr (Or.inl client))]
        dsimp only
        rw [if_pos client]
        exact ⟨answer.symm, nofun⟩
      · have answer :
            map.uncached texts encode request =
              .found (tag.text texts) (encode body) := by
          rw [uncached_shown shown, if_neg client]
        by_cases confirmed :
            ∃ body, cached = some body ∧ body.1 = tag.text texts
        · rw [if_pos ((matches_validators coherent tag).mpr
            (Or.inr confirmed))]
          obtain ⟨⟨cachedTag, encoded⟩, rfl, isTag⟩ := confirmed
          dsimp only at isTag ⊢
          rw [if_neg client, if_pos isTag]
          refine ⟨?_, nofun⟩
          have isEncoded : encoded = encode (bodyOf request.key cachedTag) :=
            (coherent _ rfl).encoded
          rw [answer, isEncoded, isTag, isBody]
        · rw [if_neg fun matched =>
            ((matches_validators coherent tag).mp matched).elim client
              confirmed]
          refine ⟨⟨⟨tag, rfl⟩, ?_⟩, answer⟩
          rw [isBody]

/-- The maps agree with the tags, and cache and calls are sound. -/
structure EncodedSound
    (texts : TagTexts)
    (encode : BrowseBody → Encoded)
    (bodyOf : Uuid × Representation → String → BrowseBody)
    (world : EncodedWorld) : Prop where
  agrees : Agrees texts bodyOf world.maps
  cache : world.cache.Sound texts encode bodyOf
  calls :
    ∀ slot call,
      world.calls slot = some call → call.Sound texts encode bodyOf

theorem EncodedWorld.Initial.sound
    {world : EncodedWorld}
    (initial : world.Initial texts bodyOf) :
    EncodedSound texts encode bodyOf world := by
  refine ⟨initial.agrees, ?_, ?_⟩
  · rw [initial.cache]
    exact BodyCache.sound_empty
  · intro slot call isCall
    rw [initial.calls slot] at isCall
    cases isCall

/-- One call moves on; the others stay where they are. -/
theorem EncodedSound.setCall
    {world : EncodedWorld}
    {slot : Nat}
    {call : BrowseCall}
    (sound : EncodedSound texts encode bodyOf world)
    (callSound : call.Sound texts encode bodyOf) :
    EncodedSound texts encode bodyOf (world.setCall slot call) := by
  refine ⟨sound.agrees, sound.cache, ?_⟩
  intro other otherCall isCall
  simp only [EncodedWorld.setCall, Function.update_apply] at isCall
  split at isCall
  · cases isCall
    exact callSound
  · exact sound.calls other otherCall isCall

theorem EncodedSound.step
    {world after : EncodedWorld}
    {action : EncodedAction}
    (sound : EncodedSound texts encode bodyOf world)
    (step : world.Step texts encode limits bodyOf action after) :
    EncodedSound texts encode bodyOf after := by
  cases step with
  | @lookup slot request _ =>
      obtain ⟨cacheSound, coherent⟩ := sound.cache.lookup request.key
      apply EncodedSound.setCall
      · exact ⟨sound.agrees, cacheSound, sound.calls⟩
      · exact coherent
  | browse looked =>
      apply sound.setCall
      exact afterBrowse_sound (sound.agrees _ _)
        (sound.calls _ _ looked)
  | insert inserting inserted =>
      obtain ⟨coherent, answer⟩ := sound.calls _ _ inserting
      obtain ⟨cache, isCache, cacheSound⟩ := sound.cache.insert coherent
      cases isCache.symm.trans inserted
      apply EncodedSound.setCall
      · exact ⟨sound.agrees, cacheSound, sound.calls⟩
      · exact ⟨answer.symm, nofun⟩
  | insertFails inserting failed =>
      obtain ⟨coherent, _⟩ := sound.calls _ _ inserting
      obtain ⟨cache, isCache, _⟩ := sound.cache.insert coherent
      cases isCache.symm.trans failed
  | change agrees => exact ⟨agrees, sound.cache, sound.calls⟩

/--
Whatever the calls and maps around it do, a call returns what `browse` with the
client's own header and JSON encoding return for the map of its `BROWSE`, and no
assertion fails.
-/
theorem browse_encoded_transparent
    {start world : EncodedWorld}
    {actions : List EncodedAction}
    {slot : Nat}
    {request : BrowseRequest}
    {map : SeatMap}
    {outcome : BrowseOutcome}
    (initial : start.Initial texts bodyOf)
    (run :
      Run (EncodedWorld.Step texts encode limits bodyOf) start actions world)
    (answered :
      world.calls slot = some (.answered request map outcome)) :
    outcome = map.uncached texts encode request ∧
    outcome ≠ .crashed ∧
    (map.shown request.eventId request.kind = none → outcome = .warming) ∧
    ∀ tag body,
      map.shown request.eventId request.kind = some (tag, body) →
      ((HeaderNames request.header "*" ∨
          HeaderNames request.header (tag.text texts)) →
        outcome = .notModified (tag.text texts)) ∧
      (¬ (HeaderNames request.header "*" ∨
          HeaderNames request.header (tag.text texts)) →
        outcome = .found (tag.text texts) (encode body)) := by
  have sound : EncodedSound texts encode bodyOf world :=
    run.invariant initial.sound fun holds step => holds.step step
  obtain ⟨isOutcome, survived⟩ := sound.calls slot _ answered
  refine ⟨isOutcome, survived, ?_, ?_⟩
  · intro warming
    rw [isOutcome, uncached_warming warming]
  · intro tag body shown
    rw [← matches_candidates (tag.text_quoted texts), isOutcome,
      uncached_shown shown]
    exact ⟨fun client => if_pos client, fun client => if_neg client⟩

end Coherence

/-! ## A body that is used again -/

/-- Layout digests do not occur in availability tags. -/
def smallTexts : TagTexts where
  digest := fun _ => ""
  plain := fun _ => List.not_mem_nil

/-- The JSON texts of free seats and of an availability body that has them. -/
def freeSeatText (seat : AvailabilitySeat) : String :=
  "\x7b\"seat_id\":\"" ++ seat.seatId ++
    "\",\"status\":\"AVAILABLE\",\"reserved_until\":null\x7d"

def freeBodyText (body : AvailabilityBody) : String :=
  "\x7b\"event_id\":\"" ++ uuidText body.eventId ++ "\",\"version\":" ++
    toString body.version ++ ",\"seats\":[" ++
    String.intercalate "," (body.seats.map freeSeatText) ++ "]\x7d"

def smallEncode : BrowseBody → Encoded
  | .availability body => (freeBodyText body).toUTF8.data.toList
  | .layout _ => []

def oneSeatLayout : Layout where
  eventId := 1
  seats := [("A1", 500)]

/-- The map of an event with one free seat. -/
def oneSeatMap : SeatMap :=
  SeatMap.afterPut {} (.full {
    layout := oneSeatLayout
    incarnation := 700
    sale := none })
    [{ seatId := "A1"
       price := 500
       status := .available
       reservedUntil := none
       sourceVersion := 0 }]

def oneSeatTag : String := (ETag.availability 1 700 0).text smallTexts

def oneSeatBody : BrowseBody :=
  .availability ⟨1, 0, [⟨"A1", .available, none⟩]⟩

/-- A client that has seen an older version. -/
def staleRequest : BrowseRequest where
  eventId := 1
  kind := .availability
  ifNoneMatch := some "W/\"availability:old\""

def smallLimits : BrowseLimits where
  entries := 2048
  bytes := 32 * 1024 * 1024

/-- The bodies of the event. -/
def oneSeatBodyOf : Uuid × Representation → String → BrowseBody
  | (_, .availability), _ => oneSeatBody
  | (_, .layout), _ => .layout oneSeatLayout

def beforeCall : EncodedWorld where
  maps := fun eventId => if eventId = 1 then oneSeatMap else {}

theorem beforeCall_initial :
    beforeCall.Initial smallTexts oneSeatBodyOf := by
  refine ⟨?_, rfl, fun _ => rfl⟩
  intro eventId kind tag body shown
  by_cases isEvent : eventId = 1
  · subst isEvent
    cases kind with
    | layout =>
        cases shown
        rfl
    | availability =>
        cases shown
        rfl
  · simp only [beforeCall, if_neg isEvent] at shown
    cases shown

/-- The stored body. -/
def storedBody : BodyCache where
  bodies :=
    OrderedDict.append .empty (1, .availability)
      (oneSeatTag, smallEncode oneSeatBody) nofun
  bytes := (smallEncode oneSeatBody).length

set_option maxRecDepth 4000 in
theorem oneSeatBody_stored :
    BodyCache.insert smallLimits .empty (1, .availability) oneSeatTag
      (smallEncode oneSeatBody) = some storedBody := by
  rfl

/-- A call of the client has looked into the cache. -/
def EncodedWorld.looked (world : EncodedWorld) (slot : Nat) : EncodedWorld :=
  { world with
    cache := (world.cache.lookup staleRequest.key).2 }.setCall slot
      (.looked staleRequest (world.cache.lookup staleRequest.key).1)

/-- The call has asked Redis, with the tag of the body that it found. -/
def EncodedWorld.browsed
    (world : EncodedWorld)
    (slot : Nat)
    (cached : Option (String × Encoded)) : EncodedWorld :=
  world.setCall slot
    (staleRequest.afterBrowse smallTexts smallEncode cached
      (world.maps staleRequest.eventId))

/-- The first call has browsed and stored the body. -/
def storedCall : EncodedWorld :=
  { (beforeCall.looked 0).browsed 0 none with cache := storedBody }.setCall 0
    (.answered staleRequest oneSeatMap
      (.found oneSeatTag (smallEncode oneSeatBody)))

theorem run_storedCall :
    Run (EncodedWorld.Step smallTexts smallEncode smallLimits oneSeatBodyOf)
      beforeCall [.lookup 0 staleRequest, .browse 0, .insert 0]
      storedCall := by
  have looked :
      (beforeCall.looked 0).calls 0 = some (.looked staleRequest none) :=
    rfl
  have browsed :
      ((beforeCall.looked 0).browsed 0 none).calls 0 =
        some (.inserting staleRequest oneSeatMap oneSeatTag
          (smallEncode oneSeatBody)) :=
    rfl
  have stored :
      ((beforeCall.looked 0).browsed 0 none).cache.insert smallLimits
        staleRequest.key oneSeatTag (smallEncode oneSeatBody) =
        some storedBody :=
    oneSeatBody_stored
  have start : beforeCall.calls 0 = none :=
    rfl
  exact .cons (.lookup start) (.cons (.browse looked)
    (.single (.insert browsed stored)))

/-- The body that the second call finds. -/
def foundBody : String × Encoded := (oneSeatTag, smallEncode oneSeatBody)

/-- Redis confirms the tag of the found body, which the client did not name. -/
def reusedCall : EncodedWorld :=
  (storedCall.looked 1).browsed 1 (some foundBody)

theorem run_reusedCall :
    Run (EncodedWorld.Step smallTexts smallEncode smallLimits oneSeatBodyOf)
      storedCall [.lookup 1 staleRequest, .browse 1] reusedCall := by
  have looked :
      (storedCall.looked 1).calls 1 =
        some (.looked staleRequest (some foundBody)) :=
    rfl
  have start : storedCall.calls 1 = none :=
    rfl
  exact .cons (.lookup start) (.single (.browse looked))

set_option maxRecDepth 4000 in
/--
The second call gets a `304` for the stored body, and the stale client gets the
tag and the body that it would have got without a cache.
-/
theorem browse_encoded_transparent_reusedCall :
    reusedCall.calls 1 =
        some (.answered staleRequest oneSeatMap
          (.found oneSeatTag (smallEncode oneSeatBody))) ∧
      BrowseOutcome.found oneSeatTag (smallEncode oneSeatBody) =
        oneSeatMap.uncached smallTexts smallEncode staleRequest := by
  have answered :
      reusedCall.calls 1 =
        some (.answered staleRequest oneSeatMap
          (.found oneSeatTag (smallEncode oneSeatBody))) :=
    rfl
  have transparent :=
    browse_encoded_transparent beforeCall_initial
      (run_storedCall.append run_reusedCall) answered
  exact ⟨answered, transparent.1⟩

end FlashTicketing
