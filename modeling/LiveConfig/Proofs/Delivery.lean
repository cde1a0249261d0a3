import LiveConfig.Client.Basic

/-!
# How snapshots reach a client

A client takes in a snapshot by a fetch or by an event of a stream. An event does so if a snapshot
can be read from its data, and otherwise does nothing: `EventStream.carried?` tells the two apart,
and what is blank is not told from what is malformed. A connection is its events one after the
other, up to where the stream breaks.
-/

namespace LiveConfig

namespace EventStream

/-- The snapshot that an event carries, if one can be read from its data. -/
def carried? (data : String) : Option Snapshot :=
  (snapshot? data).toOption.join

/-- The data of the events that arrive before a stream breaks. -/
def heard : List Item → List String
  | .data text :: rest => text :: heard rest
  | _ => []

namespace Fed

/-- An event that carries a snapshot applies it and opens the gate. -/
theorem take_carried (fed : Fed) (data : String) (snapshot : Snapshot)
    (carried : carried? data = some snapshot) :
    fed.take data = ⟨(fed.live.apply snapshot).1, fed.gate.unlock⟩ := by
  have read : snapshot? data = .ok (some snapshot) := by
    rw [carried?] at carried
    cases content : snapshot? data with
    | error error => simp [content, Except.toOption] at carried
    | ok read => simpa [content, Except.toOption] using carried
  simp [Fed.take, applyEvent, read, bind, Except.bind, pure, Except.pure]

/-- An event that carries no snapshot changes nothing. -/
theorem take_empty (fed : Fed) (data : String) (empty : carried? data = none) :
    fed.take data = fed := by
  cases content : snapshot? data with
  | error error => simp [Fed.take, applyEvent, content, bind, Except.bind]
  | ok read =>
    have blank : read = none := by simpa [carried?, content, Except.toOption] using empty
    simp [Fed.take, applyEvent, content, blank, bind, Except.bind, pure, Except.pure]

/-- What a connection leaves behind is what its events leave behind in turn. -/
theorem take_all_heard (fed : Fed) (items : List Item) :
    (fed.takeAll items).2 = (heard items).foldl take fed := by
  induction items generalizing fed with
  | nil => rfl
  | cons item rest inductionHypothesis =>
    cases item with
    | data text =>
      rw [takeAll, heard, List.foldl_cons, inductionHypothesis]
    | broken => simp only [takeAll, heard, List.foldl_nil]

end Fed

end EventStream

namespace Client

open EventStream (carried? heard)

/-- An event that carries a snapshot applies it and opens the gate. -/
theorem hear_carried (c : Client) (live : Live) (data : String) (snapshot : Snapshot)
    (service : c.live = some live) (carried : carried? data = some snapshot) :
    c.hear data = { c with live := some (live.apply snapshot).1, gate := c.gate.unlock } := by
  simp [hear, service, EventStream.Fed.take_carried _ data snapshot carried]

/-- An event that carries no snapshot changes nothing. -/
theorem hear_empty (c : Client) (data : String) (empty : carried? data = none) :
    c.hear data = c := by
  cases service : c.live with
  | none => simp [hear, service]
  | some live =>
    simp only [hear, service, EventStream.Fed.take_empty _ data empty]
    rw [← service]

/-- Hearing events in turn is hearing them at the stream's end of the client. -/
theorem fold_hear (c : Client) (live : Live) (texts : List String) (service : c.live = some live) :
    texts.foldl hear c =
      { c with
        live := some (texts.foldl EventStream.Fed.take ⟨live, c.gate⟩).live
        gate := (texts.foldl EventStream.Fed.take ⟨live, c.gate⟩).gate } := by
  induction texts generalizing c live with
  | nil =>
    simp only [List.foldl_nil]
    rw [← service]
  | cons text rest inductionHypothesis =>
    have heardFirst : c.hear text =
        { c with
          live := some (EventStream.Fed.take ⟨live, c.gate⟩ text).live
          gate := (EventStream.Fed.take ⟨live, c.gate⟩ text).gate } := by
      simp only [hear, service]
    rw [List.foldl_cons, inductionHypothesis (c.hear text) _ (by rw [heardFirst]), heardFirst,
      List.foldl_cons]

/-- Following a connection is hearing its events one after the other, up to where it breaks. -/
theorem follow_heard (c : Client) (live : Live) (status : Nat) (body : Bytes)
    (service : c.live = some live) (success : Http.isSuccess status = true) :
    (c.follow (.answered status body)).2 =
      (heard (EventStream.items body)).foldl hear c := by
  rw [fold_hear c live _ service, ← EventStream.Fed.take_all_heard]
  simp [follow, service, EventStream.Fed.consume, success]

/-- A fetch that gives a snapshot applies it and opens the gate. -/
theorem refresh_fetched (c : Client) (live : Live) (feed : Feed) (snapshot : Snapshot)
    (service : c.live = some live) (source : c.feed = some feed)
    (reply : (feed.fetch live.watermark).1 = .ok snapshot) :
    c.refresh.2 =
      { c with
        live := some (live.apply snapshot).1
        gate := c.gate.unlock
        feed := some (feed.fetch live.watermark).2 } := by
  simp only [refresh, service, source, reply]
  simp [take]

/-- A fetch that fails changes nothing but the feed. -/
theorem refresh_failed (c : Client) (live : Live) (feed : Feed) (error : ClientError)
    (service : c.live = some live) (source : c.feed = some feed)
    (reply : (feed.fetch live.watermark).1 = .error error) :
    c.refresh.2 = { c with feed := some (feed.fetch live.watermark).2 } := by
  simp only [refresh, service, source, reply]

end Client

end LiveConfig
