import LiveConfig.Proofs.Delivery
import LiveConfig.Proofs.LiveConvergence

/-!
# Incremental synchronization

The service keeps a log of records whose ids are positive and ascend. A client asks for what is
newer than its watermark, by fetches and by connections to a stream, and never for anything else.

`Step` is what can happen to a client: fetches that succeed or fail, connections that open, deliver
the next range of the log or end, payloads that arrive once more, and events that carry no record.
Steps interleave in any order, any number of connections may be open, and a fetch may be answered
long after it began. After every run the store serves exactly what the log serves up to the
watermark, so a delivery that starts after the watermark misses nothing.

A payload counts by the records that are read from it; how they are written is no part of this. The
log does not grow, which is no restriction: a range may end before the log does.
-/

namespace LiveConfig.IncrementalSync

open EventStream (carried? heard)

/-- The records of a log after one id and up to another. -/
def range (log : List Config) (after last : Int64) : List Config :=
  log.filter fun c => after < c.id && c.id ≤ last

/-- The records of a log up to an id. -/
def upTo (log : List Config) (last : Int64) : List Config :=
  log.filter fun c => c.id ≤ last

/-- An event carries records if they are what is read from it, in whatever order. -/
def Carries (data : String) (records : List Config) : Prop :=
  ∃ snapshot, carried? data = some snapshot ∧ snapshot.configs.Perm records

/-- An event carries no record if it is blank or malformed, or a snapshot without configs. -/
def CarriesNothing (data : String) : Prop :=
  ∀ snapshot, carried? data = some snapshot → snapshot.configs = []

/-- A client in the course of synchronization. -/
structure Session where
  client : Client
  /-- For each open connection the id up to which it has delivered the log; for each fetch that is
  under way the id after which it asked. -/
  connections : List Int64 := []
  /-- What has been delivered so far, on connections and by fetches. -/
  payloads : List (List Config) := []

/-- The store that the service feeds. -/
def Session.live (s : Session) : Live := s.client.live.getD {}

/-- One step of a synchronization. -/
inductive Step (log : List Config) : Session → Session → Prop
  /-- A fetch gives the records after the watermark up to some id, or what was delivered before. -/
  | fetched {s : Session} {feed : Feed} {snapshot : Snapshot} {payload : List Config}
      (source : s.client.feed = some feed)
      (reply : (feed.fetch s.live.watermark).1 = .ok snapshot)
      (carries : snapshot.configs.Perm payload)
      (sent : (∃ last, payload = range log s.live.watermark last) ∨ payload ∈ s.payloads) :
      Step log s { s with client := s.client.refresh.2, payloads := payload :: s.payloads }
  | fetchFailed {s : Session} {feed : Feed} {error : ClientError}
      (source : s.client.feed = some feed)
      (reply : (feed.fetch s.live.watermark).1 = .error error) :
      Step log s { s with client := s.client.refresh.2 }
  /-- A connection starts at the watermark, and so does a fetch whose answer takes time. -/
  | connected {s : Session} :
      Step log s { s with connections := s.live.watermark :: s.connections }
  /-- A connection delivers the range that follows what it has delivered. -/
  | received {client : Client} {payloads : List (List Config)} {position last : Int64}
      {data : String} (before after : List Int64) (onward : position ≤ last)
      (carries : Carries data (range log position last)) :
      Step log ⟨client, before ++ position :: after, payloads⟩
        ⟨client.hear data, before ++ last :: after, range log position last :: payloads⟩
  /-- A fetch is answered after other steps, by the range that follows where it started. -/
  | answered {client : Client} {payloads : List (List Config)} {position last : Int64}
      {snapshot : Snapshot} (before after : List Int64)
      (carries : snapshot.configs.Perm (range log position last)) :
      Step log ⟨client, before ++ position :: after, payloads⟩
        ⟨(client.take snapshot).1, before ++ after, range log position last :: payloads⟩
  /-- What was delivered before is delivered again. -/
  | redelivered {s : Session} {payload : List Config} {data : String}
      (member : payload ∈ s.payloads) (carries : Carries data payload) :
      Step log s { s with client := s.client.hear data }
  | passed {s : Session} {data : String} (nothing : CarriesNothing data) :
      Step log s { s with client := s.client.hear data }
  /-- A connection ends. -/
  | ended {client : Client} {payloads : List (List Config)} {position : Int64}
      (before after : List Int64) :
      Step log ⟨client, before ++ position :: after, payloads⟩ ⟨client, before ++ after, payloads⟩

/-- The sessions that any number of steps lead to from a client that nothing has reached yet. -/
inductive Reached (log : List Config) (client : Client) : Session → Prop
  | fresh : Reached log client { client }
  | step {s t : Session} (earlier : Reached log client s) (last : Step log s t) :
      Reached log client t

/-- What one connection to the stream delivers from a position on, given what has been delivered
before. -/
inductive Delivers (log : List Config) : List (List Config) → Int64 → List String → Prop
  | done {payloads : List (List Config)} {position : Int64} : Delivers log payloads position []
  | next {payloads : List (List Config)} {position last : Int64} {data : String}
      {rest : List String} (onward : position ≤ last)
      (carries : Carries data (range log position last))
      (later : Delivers log (range log position last :: payloads) last rest) :
      Delivers log payloads position (data :: rest)
  | again {payloads : List (List Config)} {payload : List Config} {position : Int64}
      {data : String} {rest : List String} (member : payload ∈ payloads)
      (carries : Carries data payload) (later : Delivers log payloads position rest) :
      Delivers log payloads position (data :: rest)
  | nothing {payloads : List (List Config)} {position : Int64} {data : String}
      {rest : List String} (empty : CarriesNothing data)
      (later : Delivers log payloads position rest) :
      Delivers log payloads position (data :: rest)

/-- A store is level with a log if it has taken in exactly the records up to its watermark. -/
def Level (log : List Config) (live : Live) : Prop :=
  ∃ history, live.Reflects history ∧ ∀ c, c ∈ history ↔ c ∈ log ∧ c.id ≤ live.watermark

/-- A position is covered if the watermark has passed every record of the log up to it. -/
def Covered (log : List Config) (live : Live) (position : Int64) : Prop :=
  ∀ c ∈ log, c.id ≤ position → c.id ≤ live.watermark

/-- What every step keeps. Besides the level of the store, nothing has been delivered beyond the
watermark, neither on a connection that is still open nor otherwise. -/
structure InSync (log : List Config) (s : Session) : Prop where
  service : s.client.live = some s.live
  level : Level log s.live
  connections : ∀ position ∈ s.connections, Covered log s.live position
  payloads : ∀ payload ∈ s.payloads, ∀ c ∈ payload, c ∈ log ∧ c.id ≤ s.live.watermark

theorem mem_range (log : List Config) (after last : Int64) (c : Config) :
    c ∈ range log after last ↔ c ∈ log ∧ after < c.id ∧ c.id ≤ last := by
  simp [range]

theorem mem_up_to (log : List Config) (last : Int64) (c : Config) :
    c ∈ upTo log last ↔ c ∈ log ∧ c.id ≤ last := by
  simp [upTo]

/-- In a log with ascending ids an id names one record. -/
theorem ascending_unambiguous (log : List Config) (ascending : log.Pairwise (·.id < ·.id)) :
    Unambiguous log := by
  have forward : log.Pairwise fun c d => c.id = d.id → c = d :=
    ascending.imp fun less same => by grind
  have backward : log.Pairwise fun c d => d.id = c.id → d = c :=
    ascending.imp fun less same => by grind
  intro c member d memberOther _
  exact List.Pairwise.forall_of_forall_of_flip (fun _ _ _ => rfl) forward backward member
    memberOther

/-- A level store serves what the log serves up to the watermark. -/
theorem level_served (log : List Config) (live : Live) (ascending : log.Pairwise (·.id < ·.id))
    (level : Level log live) (key : String) :
    live.config? key = served? key (upTo log live.watermark) := by
  obtain ⟨history, reflects, members⟩ := level
  have same : ∀ c, c ∈ history ↔ c ∈ upTo log live.watermark := by
    intro c
    rw [members, mem_up_to]
  have unambiguous : Unambiguous (upTo log live.watermark) := by
    intro c member d memberOther
    exact ascending_unambiguous log ascending c ((mem_up_to ..).mp member).1 d
      ((mem_up_to ..).mp memberOther).1
  rw [Live.reflects_served live history reflects, served?, served?,
    NewestRecord.newest_congr key _ history same unambiguous]

/-- A snapshot of records of the log keeps a store level if no record is passed over: whatever the
log has up to a record of the snapshot is in the snapshot or at or below the watermark.

The new watermark is zero, an id taken in before or an id of the snapshot. No id of the log is at or
below zero; below an old id everything was in; below an id of the snapshot nothing is passed
over. -/
theorem level_apply (log : List Config) (positive : ∀ c ∈ log, 0 < c.id) (live : Live)
    (snapshot : Snapshot) (level : Level log live)
    (present : ∀ d ∈ snapshot.configs, d ∈ log)
    (complete : ∀ d ∈ snapshot.configs, ∀ c ∈ log, c.id ≤ d.id →
      c.id ≤ live.watermark ∨ c ∈ snapshot.configs) :
    Level log (live.apply snapshot).1 := by
  obtain ⟨history, reflects, members⟩ := level
  have applied := Live.apply_reflects live history snapshot reflects
  obtain ⟨attained, greatest⟩ := applied.watermark
  refine ⟨history ++ snapshot.configs, applied, ?_⟩
  intro c
  constructor
  · intro member
    refine ⟨?_, greatest (Or.inr ⟨c, member, rfl⟩)⟩
    rcases List.mem_append.mp member with early | late
    · exact ((members c).mp early).1
    · exact present c late
  · rintro ⟨member, below⟩
    rw [List.mem_append]
    rcases attained with zero | ⟨d, memberOther, same⟩
    · have := positive c member
      grind
    · rw [← same] at below
      rcases List.mem_append.mp memberOther with early | late
      · have := ((members d).mp early).2
        exact Or.inl ((members c).mpr ⟨member, Int64.le_trans below this⟩)
      · rcases complete d late c member below with old | new
        · exact Or.inl ((members c).mpr ⟨member, old⟩)
        · exact Or.inr new

/-- The watermark does not decrease with a snapshot, and no record of it is beyond. -/
theorem watermark_apply (live : Live) (snapshot : Snapshot) :
    live.watermark ≤ (live.apply snapshot).1.watermark ∧
      ∀ d ∈ snapshot.configs, d.id ≤ (live.apply snapshot).1.watermark := by
  constructor
  · refine Int64.not_lt.mp fun less => ?_
    exact Int64.lt_irrefl ((Live.apply_below live snapshot _).mp less).1
  · refine fun d member => Int64.not_lt.mp fun less => ?_
    exact Int64.lt_irrefl (((Live.apply_below live snapshot _).mp less).2 d member)

/-- The store of a session is the one that its client holds. -/
theorem session_live (client : Client) (live : Live) (connections : List Int64)
    (payloads : List (List Config)) (service : client.live = some live) :
    (Session.mk client connections payloads).live = live := by
  simp [Session.live, service]

/-- A session remains in sync where its client keeps the store. -/
theorem same_store_in_sync (log : List Config) (s : Session) (inSync : InSync log s)
    (client : Client) (kept : client.live = some s.live) :
    InSync log { s with client } ∧ ({ s with client } : Session).live = s.live := by
  have live := session_live client s.live s.connections s.payloads kept
  refine ⟨⟨?_, ?_, ?_, ?_⟩, live⟩
  · rw [live, kept]
  · exact live ▸ inSync.level
  · exact live ▸ inSync.connections
  · exact live ▸ inSync.payloads

/-- Taking in a payload that passes over no record keeps a session in sync, whichever way it came.
What has been delivered so far remains at or below the watermark, which does not decrease, and the
payload is there too. -/
theorem delivery_in_sync (log : List Config) (positive : ∀ c ∈ log, 0 < c.id) (s : Session)
    (inSync : InSync log s) (client : Client) (snapshot : Snapshot) (payload : List Config)
    (applied : client.live = some (s.live.apply snapshot).1)
    (carries : snapshot.configs.Perm payload) (present : ∀ d ∈ payload, d ∈ log)
    (complete : ∀ d ∈ payload, ∀ c ∈ log, c.id ≤ d.id → c.id ≤ s.live.watermark ∨ c ∈ payload) :
    InSync log { s with client } ∧
      s.live.watermark ≤ ({ s with client } : Session).live.watermark ∧
      ∀ d ∈ payload, d.id ≤ ({ s with client } : Session).live.watermark := by
  have live := session_live client _ s.connections s.payloads applied
  have level : Level log (s.live.apply snapshot).1 := by
    apply level_apply log positive s.live snapshot inSync.level
    · intro d member
      exact present d (carries.mem_iff.mp member)
    · intro d member c inLog below
      rw [carries.mem_iff]
      exact complete d (carries.mem_iff.mp member) c inLog below
  obtain ⟨increases, includes⟩ := watermark_apply s.live snapshot
  rw [live]
  refine ⟨⟨?_, live ▸ level, ?_, ?_⟩, increases, ?_⟩
  · rw [live, applied]
  · intro position member c inLog below
    rw [live]
    exact Int64.le_trans (inSync.connections position member c inLog below) increases
  · intro earlier member c inPayload
    obtain ⟨inLog, below⟩ := inSync.payloads earlier member c inPayload
    rw [live]
    exact ⟨inLog, Int64.le_trans below increases⟩
  · intro d member
    exact includes d (carries.mem_iff.mpr member)

/-- Remembering a payload that is part of the log and at or below the watermark. -/
theorem recorded_in_sync (log : List Config) (s : Session) (inSync : InSync log s)
    (payload : List Config) (present : ∀ d ∈ payload, d ∈ log)
    (below : ∀ d ∈ payload, d.id ≤ s.live.watermark) :
    InSync log { s with payloads := payload :: s.payloads } := by
  refine ⟨inSync.service, inSync.level, inSync.connections, ?_⟩
  intro earlier member d inside
  rcases List.mem_cons.mp member with rfl | member
  · exact ⟨present d inside, below d inside⟩
  · exact inSync.payloads earlier member d inside

/-- The range after a covered position passes over no record. -/
theorem range_complete (log : List Config) (live : Live) (position last : Int64)
    (covered : Covered log live position) :
    ∀ d ∈ range log position last, ∀ c ∈ log, c.id ≤ d.id →
      c.id ≤ live.watermark ∨ c ∈ range log position last := by
  intro d member c inLog below
  obtain ⟨-, -, inside⟩ := (mem_range ..).mp member
  by_cases passed : c.id ≤ position
  · exact Or.inl (covered c inLog passed)
  · exact Or.inr ((mem_range ..).mpr ⟨inLog, Int64.not_le.mp passed, Int64.le_trans below inside⟩)

/-- Once the range after a covered position is in, its end is covered too. -/
theorem range_covered (log : List Config) (live next : Live) (position last : Int64)
    (covered : Covered log live position) (increases : live.watermark ≤ next.watermark)
    (includes : ∀ d ∈ range log position last, d.id ≤ next.watermark) :
    Covered log next last := by
  intro c inLog below
  by_cases passed : c.id ≤ position
  · exact Int64.le_trans (covered c inLog passed) increases
  · exact includes c ((mem_range ..).mpr ⟨inLog, Int64.not_le.mp passed, below⟩)

/-- What has been delivered before passes over no record: all of it is at or below the watermark. -/
theorem payload_complete (log : List Config) (s : Session) (inSync : InSync log s)
    (payload : List Config) (member : payload ∈ s.payloads) :
    ∀ d ∈ payload, ∀ c ∈ log, c.id ≤ d.id → c.id ≤ s.live.watermark ∨ c ∈ payload := by
  intro d inPayload c _ below
  exact Or.inl (Int64.le_trans below (inSync.payloads payload member d inPayload).2)

/-- Hearing an event keeps a session in sync if what the event carries passes over no record. -/
theorem hear_in_sync (log : List Config) (positive : ∀ c ∈ log, 0 < c.id) (s : Session)
    (inSync : InSync log s) (data : String) (payload : List Config) (carries : Carries data payload)
    (present : ∀ d ∈ payload, d ∈ log)
    (complete : ∀ d ∈ payload, ∀ c ∈ log, c.id ≤ d.id → c.id ≤ s.live.watermark ∨ c ∈ payload) :
    InSync log { s with client := s.client.hear data } ∧
      s.live.watermark ≤ ({ s with client := s.client.hear data } : Session).live.watermark ∧
      ∀ d ∈ payload,
        d.id ≤ ({ s with client := s.client.hear data } : Session).live.watermark := by
  obtain ⟨snapshot, carried, same⟩ := carries
  refine delivery_in_sync log positive s inSync _ snapshot payload ?_ same present complete
  rw [s.client.hear_carried s.live data snapshot inSync.service carried]

/-- A fetch of the records after the watermark, or of what has been delivered before, keeps a
session in sync. -/
theorem fetch_in_sync (log : List Config) (positive : ∀ c ∈ log, 0 < c.id) (s : Session)
    (inSync : InSync log s) (feed : Feed) (snapshot : Snapshot) (payload : List Config)
    (source : s.client.feed = some feed)
    (reply : (feed.fetch s.live.watermark).1 = .ok snapshot)
    (carries : snapshot.configs.Perm payload)
    (sent : (∃ last, payload = range log s.live.watermark last) ∨ payload ∈ s.payloads) :
    InSync log { s with client := s.client.refresh.2, payloads := payload :: s.payloads } ∧
      s.live.watermark ≤
        ({ s with client := s.client.refresh.2 } : Session).live.watermark := by
  have applied : s.client.refresh.2.live = some (s.live.apply snapshot).1 := by
    rw [s.client.refresh_fetched s.live feed snapshot inSync.service source reply]
  have present : ∀ d ∈ payload, d ∈ log := by
    intro d inside
    rcases sent with ⟨last, rfl⟩ | member
    · exact ((mem_range ..).mp inside).1
    · exact (inSync.payloads payload member d inside).1
  have complete : ∀ d ∈ payload, ∀ c ∈ log, c.id ≤ d.id →
      c.id ≤ s.live.watermark ∨ c ∈ payload := by
    rcases sent with ⟨last, rfl⟩ | member
    · exact range_complete log s.live _ last fun _ _ below => below
    · exact payload_complete log s inSync payload member
  obtain ⟨next, increases, includes⟩ :=
    delivery_in_sync log positive s inSync _ snapshot payload applied carries present complete
  exact ⟨recorded_in_sync log _ next payload present includes, increases⟩

/-- Taking in the next range of a connection keeps a session in sync: the connection stood at a
covered position, and once the range is in, the range's end is covered too. -/
theorem range_in_sync (log : List Config) (positive : ∀ c ∈ log, 0 < c.id) (client next : Client)
    (payloads : List (List Config)) (position last : Int64) (snapshot : Snapshot)
    (before after : List Int64)
    (inSync : InSync log ⟨client, before ++ position :: after, payloads⟩)
    (applied : next.live = some ((client.live.getD {}).apply snapshot).1)
    (carries : snapshot.configs.Perm (range log position last)) :
    InSync log ⟨next, before ++ last :: after, range log position last :: payloads⟩ ∧
      (client.live.getD {}).watermark ≤ (next.live.getD {}).watermark := by
  have covered := inSync.connections position (by simp)
  have present : ∀ d ∈ range log position last, d ∈ log :=
    fun d inside => ((mem_range ..).mp inside).1
  obtain ⟨heard, increases, includes⟩ := delivery_in_sync log positive _ inSync next snapshot
    (range log position last) applied carries present (range_complete log _ position last covered)
  obtain ⟨service, level, connections, recorded⟩ :=
    recorded_in_sync log _ heard (range log position last) present includes
  refine ⟨⟨service, level, ?_, recorded⟩, increases⟩
  intro other member
  rcases List.mem_append.mp member with early | late
  · exact connections other (List.mem_append_left _ early)
  · rcases List.mem_cons.mp late with rfl | late
    · exact range_covered log _ _ position other covered increases includes
    · exact connections other (List.mem_append_right _ (List.mem_cons_of_mem _ late))

/-- A session remains in sync where a connection ends. -/
theorem ended_in_sync (log : List Config) (client : Client) (payloads : List (List Config))
    (position : Int64) (before after : List Int64)
    (inSync : InSync log ⟨client, before ++ position :: after, payloads⟩) :
    InSync log ⟨client, before ++ after, payloads⟩ := by
  refine ⟨inSync.service, inSync.level, ?_, inSync.payloads⟩
  intro other member
  refine inSync.connections other ?_
  rcases List.mem_append.mp member with early | late
  · exact List.mem_append_left _ early
  · exact List.mem_append_right _ (List.mem_cons_of_mem _ late)

/-- A step keeps a session in sync and does not decrease the watermark. Every step that delivers
something delivers the range after a covered position or what was delivered before, and both pass
over no record. -/
theorem step_in_sync (log : List Config) (positive : ∀ c ∈ log, 0 < c.id) (s t : Session)
    (inSync : InSync log s) (step : Step log s t) :
    InSync log t ∧ s.live.watermark ≤ t.live.watermark := by
  cases step with
  | @fetched _ feed snapshot payload source reply carries sent =>
    exact fetch_in_sync log positive s inSync feed snapshot payload source reply carries sent
  | @fetchFailed _ feed error source reply =>
    have kept : s.client.refresh.2.live = some s.live := by
      rw [s.client.refresh_failed s.live feed error inSync.service source reply]
      exact inSync.service
    obtain ⟨next, same⟩ := same_store_in_sync log s inSync _ kept
    exact ⟨next, Int64.le_of_eq (congrArg Live.watermark same.symm)⟩
  | connected =>
    refine ⟨⟨inSync.service, inSync.level, ?_, inSync.payloads⟩, Int64.le_refl _⟩
    intro position member
    rcases List.mem_cons.mp member with rfl | member
    · exact fun _ _ below => below
    · exact inSync.connections position member
  | @received client payloads position last data before after _ carries =>
    obtain ⟨snapshot, carried, same⟩ := carries
    refine range_in_sync log positive client _ payloads position last snapshot before after inSync
      ?_ same
    rw [client.hear_carried _ data snapshot inSync.service carried]
    rfl
  | @answered client payloads position last snapshot before after carries =>
    obtain ⟨next, increases⟩ := range_in_sync log positive client (client.take snapshot).1 payloads
      position last snapshot before after inSync rfl carries
    exact ⟨ended_in_sync log _ _ last before after next, increases⟩
  | @redelivered _ payload data member carries =>
    obtain ⟨next, increases, -⟩ := hear_in_sync log positive s inSync data payload carries
      (fun d inside => (inSync.payloads payload member d inside).1)
      (payload_complete log s inSync payload member)
    exact ⟨next, increases⟩
  | @passed _ data nothing =>
    cases carried : carried? data with
    | none =>
      rw [s.client.hear_empty data carried]
      exact ⟨inSync, Int64.le_refl _⟩
    | some snapshot =>
      have carries : Carries data [] :=
        ⟨snapshot, carried, nothing snapshot carried ▸ List.Perm.refl _⟩
      obtain ⟨next, increases, -⟩ :=
        hear_in_sync log positive s inSync data [] carries (by simp) (by simp)
      exact ⟨next, increases⟩
  | @ended client payloads position before after =>
    exact ⟨ended_in_sync log client payloads position before after inSync, Int64.le_refl _⟩

/-- A client that nothing has reached is in sync with any log of positive ids. -/
theorem fresh_in_sync (log : List Config) (positive : ∀ c ∈ log, 0 < c.id) (client : Client)
    (fresh : client.live = some {}) : InSync log { client } := by
  have live := session_live client {} [] [] fresh
  refine ⟨by rw [live, fresh], ?_, by simp, by simp⟩
  rw [live]
  refine ⟨[], Live.fresh_reflects, ?_⟩
  intro c
  simp only [List.not_mem_nil, false_iff, not_and]
  intro member
  exact Int64.not_le.mpr (positive c member)

/-- Every session that a run leads to is in sync. -/
theorem reached_in_sync (log : List Config) (positive : ∀ c ∈ log, 0 < c.id) (client : Client)
    (fresh : client.live = some {}) (s : Session) (reached : Reached log client s) :
    InSync log s := by
  induction reached with
  | fresh => exact fresh_in_sync log positive client fresh
  | step _ last inductionHypothesis =>
    exact (step_in_sync log positive _ _ inductionHypothesis last).1

/-- Hearing what an open connection delivers is a run: every event of it is a step. -/
theorem heard_reached (log : List Config) (client c : Client) (connections : List Int64)
    (payloads : List (List Config)) (position : Int64) (texts : List String)
    (delivers : Delivers log payloads position texts)
    (reached : Reached log client ⟨c, position :: connections, payloads⟩) :
    ∃ last delivered,
      Reached log client ⟨texts.foldl Client.hear c, last :: connections, delivered⟩ := by
  induction delivers generalizing c with
  | done => exact ⟨_, _, reached⟩
  | @next _ _ _ data _ onward carries _ inductionHypothesis =>
    exact inductionHypothesis (c.hear data)
      (reached.step (.received [] connections onward carries))
  | @again _ _ _ data _ member carries _ inductionHypothesis =>
    exact inductionHypothesis (c.hear data) (reached.step (.redelivered member carries))
  | @nothing _ _ data _ empty _ inductionHypothesis =>
    exact inductionHypothesis (c.hear data) (reached.step (.passed empty))

/-- Following a whole connection that delivers the log from the watermark on is a run, wherever the
stream breaks. -/
theorem follow_reached (log : List Config) (client : Client) (s : Session)
    (reached : Reached log client s) (service : s.client.live = some s.live) (status : Nat)
    (body : Bytes) (success : Http.isSuccess status = true)
    (delivers :
      Delivers log s.payloads s.live.watermark (heard (EventStream.items body))) :
    ∃ delivered, Reached log client
      ⟨(s.client.follow (.answered status body)).2, s.connections, delivered⟩ := by
  obtain ⟨last, delivered, atEnd⟩ := heard_reached log client s.client s.connections s.payloads
    s.live.watermark _ delivers (reached.step .connected)
  rw [← s.client.follow_heard s.live status body service success] at atEnd
  exact ⟨delivered, atEnd.step (.ended [] s.connections)⟩

/-- Incremental synchronization loses nothing. After every run, whatever has been fetched, streamed,
repeated, dropped or garbled in it and in whatever order, the store serves for each key exactly what
the log serves up to the watermark. The watermark is at or above every record that has been
delivered, and no further step decreases it. -/
theorem sync_loses_nothing (log : List Config) (ascending : log.Pairwise (·.id < ·.id))
    (positive : ∀ c ∈ log, 0 < c.id) (client : Client) (fresh : client.live = some {})
    (s : Session) (reached : Reached log client s) :
    (∀ key, s.live.config? key = served? key (upTo log s.live.watermark)) ∧
      (∀ payload ∈ s.payloads, ∀ c ∈ payload, c ∈ log ∧ c.id ≤ s.live.watermark) ∧
      ∀ t, Step log s t → s.live.watermark ≤ t.live.watermark := by
  have inSync := reached_in_sync log positive client fresh s reached
  exact ⟨level_served log s.live ascending inSync.level, inSync.payloads,
    fun t step => (step_in_sync log positive s t inSync step).2⟩

/-- The bytes of a snapshot with one record, whose only row has no rules. -/
theorem sound_event : EventStream.snapshot? "CgcIAhoBYioA" =
    .ok (some { configs := [{ id := 2, key := "b", kind := .unset, rows := [{}] }] }) := by
  have text : Text.trim "CgcIAhoBYioA" = "CgcIAhoBYioA" := by decide +kernel
  have bytes : Base64.decode? (Bytes.ofText "CgcIAhoBYioA") =
      some [10, 7, 8, 2, 26, 1, 98, 42, 0] := by decide +kernel
  have outer : Wire.readAll? Wire.noneForced 100 [10, 7, 8, 2, 26, 1, 98, 42, 0] =
      some [⟨1, .delimited [8, 2, 26, 1, 98, 42, 0]⟩] := by decide +kernel
  have config : Wire.readAll? Wire.noneForced 99 [8, 2, 26, 1, 98, 42, 0] =
      some [⟨1, .number 2⟩, ⟨3, .delimited [98]⟩, ⟨5, .delimited []⟩] := by decide +kernel
  have row : Wire.readAll? Wire.noneForced 98 [] = some [] := by decide +kernel
  have key : Bytes.toText? [98] = some "b" := by decide +kernel
  have snapshot : Snapshot.decode? [10, 7, 8, 2, 26, 1, 98, 42, 0] =
      some { configs := [{ id := 2, key := "b", kind := .unset, rows := [{}] }] } := by
    simp [Snapshot.decode?, Wire.decode?, Wire.depthLimit, outer, config, row, key,
      Wire.SnapshotMessage.merge?, Wire.nest?, Wire.Field.bytes?, Wire.Field.int64?,
      Wire.Field.text?, Wire.Field.number?, Wire.ConfigMessage.merge?,
      Wire.SnapshotMessage.toSnapshot, Wire.soundConfigs, Wire.ConfigMessage.toConfig,
      Except.toOption]
    rfl
  simp only [EventStream.snapshot?, text, bytes, snapshot]
  simp

/-- Text that is not Base64 is malformed. -/
theorem malformed_event : EventStream.snapshot? "!" = .error .base64 := by
  have text : Text.trim "!" = "!" := by decide +kernel
  have bytes : Base64.decode? (Bytes.ofText "!") = none := by decide +kernel
  simp [EventStream.snapshot?, text, bytes]

/-- A malformed event carries nothing. -/
theorem malformed_carries_nothing : CarriesNothing "!" := by
  intro snapshot carried
  simp [carried?, malformed_event, Except.toOption] at carried

/-- A log of two records. -/
def shortLog : List Config :=
  [{ id := 1, key := "a", kind := .unset, rows := [{}] },
    { id := 2, key := "b", kind := .unset, rows := [{}] }]

/-- The sound event carries the second record of the short log. -/
theorem sound_event_carries : Carries "CgcIAhoBYioA" (range shortLog 1 2) :=
  ⟨_, by rw [carried?, sound_event]; rfl, List.Perm.refl _⟩

/-- A client whose first fetch gives the first record and whose second fetch fails. -/
def shortClient : Client where
  options := {}
  layers := [.service]
  live := some {}
  gate := {}
  recorder := none
  feed := some (.scripted [.ok { configs := range shortLog 0 1 }, .error .unreachable])

/-- What a run leads to in which a fetch fails, an event is malformed and another one arrives
twice. -/
def shortRun : Session where
  client := ["!", "CgcIAhoBYioA", "CgcIAhoBYioA"].foldl Client.hear shortClient.refresh.2.refresh.2
  payloads := [range shortLog 1 2, range shortLog 0 1]

/-- The run takes in both records of the log: the second one is served, and is the watermark. -/
theorem short_run_loses_nothing : Reached shortLog shortClient shortRun ∧
    shortRun.live.watermark = 2 ∧
    shortRun.live.config? "b" = some { id := 2, key := "b", kind := .unset, rows := [{}] } ∧
    ∀ key, shortRun.live.config? key = served? key (upTo shortLog shortRun.live.watermark) := by
  have fetched : Reached shortLog shortClient
      ⟨shortClient.refresh.2, [], [range shortLog 0 1]⟩ :=
    .step .fresh (.fetched rfl rfl (List.Perm.refl _) (Or.inl ⟨1, rfl⟩))
  have failed : Reached shortLog shortClient
      ⟨shortClient.refresh.2.refresh.2, [], [range shortLog 0 1]⟩ :=
    fetched.step (.fetchFailed rfl rfl)
  have connected : Reached shortLog shortClient
      ⟨shortClient.refresh.2.refresh.2, [1], [range shortLog 0 1]⟩ :=
    failed.step .connected
  have passed := connected.step (.passed malformed_carries_nothing)
  have received := passed.step (.received [] [] (by decide) sound_event_carries)
  have redelivered := received.step (.redelivered (by simp) sound_event_carries)
  have ended : Reached shortLog shortClient shortRun := redelivered.step (.ended [] [])
  obtain ⟨served, -, -⟩ :=
    sync_loses_nothing shortLog (by decide) (by decide) shortClient rfl shortRun ended
  have watermark : shortRun.live.watermark = 2 := by
    have malformed : carried? "!" = none := by simp [carried?, malformed_event, Except.toOption]
    have carried : carried? "CgcIAhoBYioA" = some { configs := range shortLog 1 2 } := by
      rw [carried?, sound_event]
      rfl
    rw [Session.live, shortRun, List.foldl_cons, Client.hear_empty _ _ malformed, List.foldl_cons,
      Client.hear_carried _ _ _ _ rfl carried, List.foldl_cons,
      Client.hear_carried _ _ _ _ rfl carried]
    rfl
  refine ⟨ended, watermark, ?_, served⟩
  rw [served, watermark]
  rfl

end LiveConfig.IncrementalSync
