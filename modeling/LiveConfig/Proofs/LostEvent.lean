import LiveConfig.Proofs.IncrementalSync

/-!
# Events that get lost

A malformed event is passed over and its connection goes on. The records that it was sent with are
missing from then on, and what can bring them back is the next connection, which starts at the
watermark. The watermark knows nothing of the gap: it is the greatest id read so far.

A lost record is therefore delivered again exactly as long as nothing newer has been read after it.
Events that bring no record do not matter, and neither does the key of the lost record.
-/

namespace LiveConfig.LostEvent

open EventStream (Fed carried? heard)
open IncrementalSync (Carries CarriesNothing range mem_range shortLog sound_event_carries
  malformed_event malformed_carries_nothing)

/-- An event as it was sent and as it has arrived. -/
structure Event where
  /-- The records that the service sent. -/
  records : List Config
  data : String

/-- An event is malformed if reading it fails. A blank one is not. -/
def Malformed (data : String) : Prop :=
  ∃ error, EventStream.snapshot? data = .error error

/-- What arrives on a connection to a log that starts after an id. Between events the ids ascend;
the records of one event may stand in any order. Any event may have become unreadable or blank. -/
structure Opened (start : Int64) (events : List Event) : Prop where
  arrived : ∀ event ∈ events, Carries event.data event.records ∨ CarriesNothing event.data
  newer : ∀ event ∈ events, ∀ c ∈ event.records, start < c.id
  ascending : events.Pairwise fun e f => ∀ c ∈ e.records, ∀ d ∈ f.records, c.id < d.id

/-- A malformed event does not carry records, not even none. -/
theorem malformed_not_carries (data : String) (records : List Config)
    (malformed : Malformed data) : ¬Carries data records := by
  obtain ⟨error, failed⟩ := malformed
  rintro ⟨snapshot, carried, -⟩
  simp [carried?, failed, Except.toOption] at carried

/-- The watermark after an event is below a bound exactly if it was before and so is what the event
brings, provided that it arrives intact. -/
theorem take_below (fed : Fed) (event : Event) (bound : Int64)
    (arrived : Carries event.data event.records ∨ CarriesNothing event.data) :
    (fed.take event.data).live.watermark < bound ↔
      fed.live.watermark < bound ∧
        (Carries event.data event.records → ∀ c ∈ event.records, c.id < bound) := by
  cases carried : carried? event.data with
  | none =>
    have lost : ¬Carries event.data event.records := by
      rintro ⟨snapshot, read, -⟩
      simp [carried] at read
    simp [fed.take_empty event.data carried, lost]
  | some snapshot =>
    rw [fed.take_carried event.data snapshot carried, Live.apply_below]
    refine and_congr_right fun _ => ?_
    constructor
    · rintro below ⟨read, sameRead, same⟩ c member
      obtain rfl : snapshot = read := Option.some.inj (carried.symm.trans sameRead)
      exact below c (same.mem_iff.mpr member)
    · intro below c member
      rcases arrived with intact | nothing
      · obtain ⟨read, sameRead, same⟩ := intact
        obtain rfl : snapshot = read := Option.some.inj (carried.symm.trans sameRead)
        exact below ⟨snapshot, carried, same⟩ c (same.mem_iff.mp member)
      · rw [nothing snapshot carried] at member
        exact absurd member List.not_mem_nil

/-- The watermark after any number of events is below a bound exactly if it was before and so is all
that arrived intact. -/
theorem events_below (fed : Fed) (events : List Event) (bound : Int64)
    (arrived : ∀ event ∈ events, Carries event.data event.records ∨ CarriesNothing event.data) :
    ((events.map Event.data).foldl Fed.take fed).live.watermark < bound ↔
      fed.live.watermark < bound ∧ ∀ event ∈ events,
        Carries event.data event.records → ∀ c ∈ event.records, c.id < bound := by
  induction events generalizing fed with
  | nil => simp
  | cons event rest inductionHypothesis =>
    obtain ⟨first, later⟩ := List.forall_mem_cons.mp arrived
    rw [List.map_cons, List.foldl_cons, inductionHypothesis (fed.take event.data) later,
      take_below fed event bound first, List.forall_mem_cons, and_assoc]

/-- A record of a malformed event is ahead of the watermark exactly as long as every event that has
arrived intact since then brought no record; in just this case a connection that starts at the
watermark delivers it.

What came before is older and the malformed event itself is not read, so that only what came after
decides, and all of it is newer. -/
theorem lost_record_ahead_iff (fed : Fed) (before seen : List Event) (lost : Event)
    (opened : Opened fed.live.watermark (before ++ lost :: seen)) (malformed : Malformed lost.data)
    (items : List EventStream.Item)
    (arrival : heard items = (before ++ lost :: seen).map Event.data) (c : Config)
    (member : c ∈ lost.records) :
    ((fed.takeAll items).2.live.watermark < c.id ↔
        ∀ event ∈ seen, Carries event.data event.records → event.records = []) ∧
      ∀ log last, c ∈ log → c.id ≤ last →
        (c ∈ range log (fed.takeAll items).2.live.watermark last ↔
          ∀ event ∈ seen, Carries event.data event.records → event.records = []) := by
  have older : ∀ event ∈ before, ∀ d ∈ event.records, d.id < c.id := by
    intro event early d inside
    exact (List.pairwise_append.mp opened.ascending).2.2 event early lost
      List.mem_cons_self d inside c member
  have newer : ∀ event ∈ seen, ∀ d ∈ event.records, c.id < d.id := by
    intro event late d inside
    exact (List.pairwise_cons.mp (List.pairwise_append.mp opened.ascending).2.1).1 event late c
      member d inside
  have start : fed.live.watermark < c.id := opened.newer lost (by simp) c member
  have ahead : (fed.takeAll items).2.live.watermark < c.id ↔
      ∀ event ∈ seen, Carries event.data event.records → event.records = [] := by
    rw [fed.take_all_heard, arrival, events_below fed _ c.id opened.arrived]
    constructor
    · rintro ⟨-, below⟩ event late intact
      refine List.eq_nil_iff_forall_not_mem.mpr fun d inside => ?_
      exact Int64.lt_irrefl (Int64.lt_trans (newer event late d inside)
        (below event (by simp [late]) intact d inside))
    · intro silent
      refine ⟨start, fun event among intact d inside => ?_⟩
      rcases List.mem_append.mp among with early | among
      · exact older event early d inside
      · rcases List.mem_cons.mp among with rfl | late
        · exact absurd intact (malformed_not_carries _ _ malformed)
        · rw [silent event late intact] at inside
          exact absurd inside List.not_mem_nil
  refine ⟨ahead, fun log last inLog within => ?_⟩
  rw [← ahead, mem_range]
  exact ⟨fun inside => inside.2.1, fun less => ⟨inLog, less, within⟩⟩

/-- A record for the key of the short log's first record. -/
def laterRecord : Config :=
  { id := 3, key := "a", kind := .unset, rows := [{}] }

/-- A connection that loses its last record and then gives a sign of life. -/
def lostLast : List Event :=
  [⟨range shortLog 1 2, "CgcIAhoBYioA"⟩, ⟨[laterRecord], "!"⟩, ⟨[], ""⟩]

/-- The lost record is ahead of the watermark, and the next connection delivers it. -/
theorem last_record_remains_ahead :
    laterRecord ∈ range (shortLog ++ [laterRecord])
      (Fed.takeAll ⟨{}, {}⟩ (lostLast.map fun event => .data event.data)).2.live.watermark 3 := by
  have blank : CarriesNothing "" := by
    intro snapshot carried
    have text : Text.trim "" = "" := by decide +kernel
    simp [carried?, EventStream.snapshot?, text, Except.toOption] at carried
  have opened : Opened 0 ([⟨range shortLog 1 2, "CgcIAhoBYioA"⟩] ++
      ⟨[laterRecord], "!"⟩ :: [⟨[], ""⟩]) :=
    { arrived := by
        simp [sound_event_carries, malformed_carries_nothing, blank]
      newer := by decide
      ascending := by decide }
  refine ((lost_record_ahead_iff ⟨{}, {}⟩ _ _ _ opened ⟨_, malformed_event⟩ _ rfl laterRecord
    List.mem_cons_self).2 _ 3 (by simp) (by decide)).mpr ?_
  intro event late _
  rw [List.mem_singleton.mp late]

/-- A connection that loses its first record and then delivers the second, for another key. -/
def lostFirst : List Event :=
  [⟨range shortLog 0 1, "!"⟩, ⟨range shortLog 1 2, "CgcIAhoBYioA"⟩]

/-- That no record for the key of a lost record arrives later does not keep it ahead of the
watermark: any newer record takes the watermark past it. -/
theorem lost_record_overtaken :
    ¬∀ (fed : Fed) (before seen : List Event) (lost : Event),
      Opened fed.live.watermark (before ++ lost :: seen) → Malformed lost.data →
      ∀ items, heard items = (before ++ lost :: seen).map Event.data → ∀ c ∈ lost.records,
      (∀ event ∈ seen, ∀ d ∈ event.records, d.key ≠ c.key) →
      (fed.takeAll items).2.live.watermark < c.id := by
  intro remains
  have opened : Opened 0 lostFirst :=
    { arrived := by simp [lostFirst, sound_event_carries, malformed_carries_nothing]
      newer := by decide
      ascending := by decide }
  have ahead := remains ⟨{}, {}⟩ [] [⟨range shortLog 1 2, "CgcIAhoBYioA"⟩]
    ⟨range shortLog 0 1, "!"⟩ opened ⟨_, malformed_event⟩
    (lostFirst.map fun event => .data event.data) rfl
    { id := 1, key := "a", kind := .unset, rows := [{}] } List.mem_cons_self (by decide)
  rw [Fed.take_all_heard, show heard (lostFirst.map fun event => .data event.data) =
    lostFirst.map Event.data from rfl, events_below _ _ _ opened.arrived] at ahead
  have passed := ahead.2 ⟨range shortLog 1 2, "CgcIAhoBYioA"⟩ (by simp [lostFirst])
    sound_event_carries
  exact absurd passed (by decide)

end LiveConfig.LostEvent
