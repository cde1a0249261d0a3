import LiveConfig.Proofs.ClientRuns
import LiveConfig.Proofs.LiveConvergence

/-!
# The gate over runs

A gate that is closed at first opens with the first snapshot that arrives, by a fetch or by an event
and in whatever order they come, or with the first wait that ends in vain if the options let it. It
opens by nothing else and never closes: `gate_open_iff_arrived`. A wait takes what a run says, not
time, so when exactly a wait is over is left open.
-/

namespace LiveConfig

namespace Live

/-- A store that has taken in any snapshot is initialized. -/
theorem arrived_initialized (s : Live) (arrived : List Snapshot) (any : arrived ≠ []) :
    (arrived.foldl (fun s snapshot => (s.apply snapshot).1) s).initialized = true := by
  obtain ⟨earlier, last, rfl⟩ := List.eq_nil_or_concat arrived |>.resolve_left any
  rw [List.concat_eq_append, List.foldl_append]
  exact (apply_surroundings _ last).2.2

end Live

namespace Client

open EventStream (snapshot?)

/-- A fetch that gives no snapshot leaves all but the feed as it is. -/
theorem refresh_empty (c : Client) (empty : c.fetched? = none) :
    ∃ feed, c.refresh.2 = { c with feed } := by
  rcases c.refresh_cases with ⟨-, _, feed, failed⟩ | ⟨_, _, _, _, -, given, -⟩
  · exact ⟨feed, by rw [failed]⟩
  · rw [empty] at given
    contradiction

/-- A fetch that fails leaves all but the feed as it is. -/
theorem refresh_error (c : Client) (error : ClientError) (failed : c.refresh.1 = .error error) :
    ∃ feed, c.refresh.2 = { c with feed } := by
  rcases c.refresh_cases with ⟨empty, -⟩ | ⟨_, _, _, _, -, -, succeeded⟩
  · exact c.refresh_empty empty
  · rw [succeeded] at failed
    contradiction

/-- Background tasks that bring no snapshot leave all but the feed as it is. -/
theorem runBackground_empty (c : Client) (empty : c.background? = none) :
    ∃ feed awaitsFetch, c.runBackground = { c with feed, awaitsFetch } := by
  rw [runBackground]
  by_cases awaits : c.awaitsFetch = true
  · rw [background?, if_pos awaits] at empty
    obtain ⟨feed, fetched⟩ := c.refresh_empty empty
    exact ⟨feed, false, by rw [if_pos awaits, fetched]⟩
  · exact ⟨c.feed, c.awaitsFetch, by rw [if_neg awaits]⟩

/-- Every lookup of a key fails because a time is over. It leaves all but the feed as it is: no
store is asked, and nothing is recorded. -/
def RefusesLookups (c : Client) (time : Duration) : Prop :=
  ∀ bound key context, ∃ feed awaitsFetch,
    c.resolve bound key context =
      (.error (.config (.timedOut time)), { c with feed, awaitsFetch }) ∧
    ∀ {α : Type} (type : Value → Option α),
      c.get type bound key context =
        (.error (.config (.timedOut time)), { c with feed, awaitsFetch })

/-- What brings no snapshot changes neither the gate nor what the stores of a client hold. -/
structure IgnoresFailures (c : Client) : Prop where
  refreshed : ∀ error, c.refresh.1 = .error error → ∃ feed, c.refresh.2 = { c with feed }
  background : c.background? = none →
    ∃ feed awaitsFetch, c.runBackground = { c with feed, awaitsFetch }
  fetched : ∀ error, c.conclude (.error error) = c
  blank : ∀ data, snapshot? data = .ok none → c.hear data = c
  malformed : ∀ data error, snapshot? data = .error error → c.hear data = c

/-- Where waiting in vain is an error, it leaves all but the feed as it is. -/
theorem await_refused (c : Client) (policy : c.options.onFailure = .refuse)
    (expired : c.timesOut = true) :
    ∃ feed awaitsFetch, c.await =
      (.error (.config (.timedOut c.options.initTimeout)), { c with feed, awaitsFetch }) := by
  rw [timesOut, Bool.and_eq_true, Bool.not_eq_true', waited?] at expired
  obtain ⟨closed, nothing⟩ := expired
  rw [closed, if_neg Bool.false_ne_true, Option.isNone_iff_eq_none] at nothing
  obtain ⟨feed, awaitsFetch, worked⟩ := c.runBackground_empty nothing
  refine ⟨feed, awaitsFetch, ?_⟩
  simp only [await, worked, closed, Bool.false_eq_true, if_false, timeOut, policy]

/-- A client whose wait ends in vain, and whose options make that an error, refuses lookups. -/
theorem refuses_lookups (c : Client) (policy : c.options.onFailure = .refuse)
    (expired : c.timesOut = true) : c.RefusesLookups c.options.initTimeout := by
  intro bound key context
  obtain ⟨feed, awaitsFetch, refused⟩ := c.await_refused policy expired
  have resolved : c.resolve bound key context =
      (.error (.config (.timedOut c.options.initTimeout)), { c with feed, awaitsFetch }) := by
    simp only [resolve, refused]
  refine ⟨feed, awaitsFetch, resolved, ?_⟩
  intro α type
  simp only [get, resolved, Except.map]

/-- Every client ignores failures. -/
theorem ignores_failures (c : Client) : c.IgnoresFailures where
  refreshed := c.refresh_error
  background := c.runBackground_empty
  fetched error := by
    cases service : c.live <;> simp only [conclude, service]
  blank data nothing := c.hear_empty data (by simp [EventStream.carried?, nothing, Except.toOption])
  malformed data error fault :=
    c.hear_empty data (by simp [EventStream.carried?, fault, Except.toOption])

/-- After every run of a client that has been built, the gate is open exactly if there is no
service, or the run has brought a snapshot, or some wait of it has ended in vain and the options let
that open the gate. Nothing closes it again.

Where waiting in vain is an error, a wait that does refuses every lookup of a key. Fetches that fail
and events that are blank or malformed change nothing. An open gate then says that the store of the
service has taken in a snapshot, if there is a service. -/
theorem gate_open_iff_arrived (options : Options) (files : Files) (feed : Option Feed) (c : Client)
    (built : build options files feed = .ok c) (acts : List Act) :
    ((c.run acts).gate.isOpen = true ↔
      options.usesService = false ∨ c.arrivals acts ≠ [] ∨
        options.onFailure = .unlock ∧ c.anyExpires acts = true) ∧
    (∀ more, (c.run acts).gate.isOpen = true → (c.run (acts ++ more)).gate.isOpen = true) ∧
    (options.onFailure = .refuse → ∀ late, ((c.run acts).delayed late).timesOut = true →
      ((c.run acts).delayed late).RefusesLookups options.initTimeout) ∧
    (c.run acts).IgnoresFailures ∧
    (options.onFailure = .refuse → options.usesService = true →
      (c.run acts).gate.isOpen = true →
      ∃ live, (c.run acts).live = some live ∧ live.initialized = true) := by
  obtain ⟨-, own, service, gate⟩ := build_ok options files feed c built
  have moved := c.run_moved acts
  have same : (c.run acts).options = options := moved.options.trans own
  have opens : (c.run acts).gate.isOpen = true ↔
      options.usesService = false ∨ c.arrivals acts ≠ [] ∨
        options.onFailure = .unlock ∧ c.anyExpires acts = true := by
    rw [moved.gate, gate, own, Bool.not_eq_true', and_comm (a := c.anyExpires acts = true)]
  refine ⟨opens, ?_, ?_, (c.run acts).ignores_failures, ?_⟩
  · intro more isOpen
    have onward := (c.run acts).run_moved more
    rw [run, List.foldl_append]
    exact onward.gate.mpr (.inl isOpen)
  · intro policy late expired
    have refusing : ((c.run acts).delayed late).options.onFailure = .refuse := by
      rw [← policy, ← same]
      rfl
    rw [← same]
    exact ((c.run acts).delayed late).refuses_lookups refusing expired
  · intro policy uses isOpen
    rcases opens.mp isOpen with without | arrived | ⟨unlocks, -⟩
    · rw [uses] at without
      contradiction
    · refine ⟨_, ?_, Live.arrived_initialized {} (c.arrivals acts) arrived⟩
      rw [moved.live, service, if_pos uses, Option.map_some]
    · rw [policy] at unlocks
      contradiction

/-- Options with a service and nothing else. -/
def served : Options where
  key := some "k"
  supplies := some [.service]

/-- A client whose first fetch fails and whose second one gives an empty snapshot. -/
def patient : Client where
  options := served
  layers := [.service]
  live := some {}
  gate := {}
  recorder := recorderOf? served
  feed := some (.scripted [.error .unreachable, .ok {}])

/-- A wait ends in vain, a fetch fails and the next one succeeds. Before it the gate is closed and
lookups are refused; after it the gate is open. -/
theorem second_fetch_opens :
    build served ∅ (some (.scripted [.error .unreachable, .ok {}])) = .ok patient ∧
      (patient.run [.asked false .readiness, .refreshed]).gate.isOpen = false ∧
      (patient.run [.asked false .readiness, .refreshed]).RefusesLookups served.initTimeout ∧
      (patient.run [.asked false .readiness, .refreshed, .refreshed]).gate.isOpen = true := by
  have built : build served ∅ (some (.scripted [.error .unreachable, .ok {}])) = .ok patient := rfl
  have early := gate_open_iff_arrived served ∅ _ patient built [.asked false .readiness, .refreshed]
  have late := gate_open_iff_arrived served ∅ _ patient built
    [.asked false .readiness, .refreshed, .refreshed]
  have nothing : patient.arrivals [.asked false .readiness, .refreshed] = [] := rfl
  have something : patient.arrivals [.asked false .readiness, .refreshed, .refreshed] = [{}] := rfl
  refine ⟨built, ?_, early.2.2.1 rfl false rfl, ?_⟩
  · rw [Bool.eq_false_iff, ne_eq, early.1, nothing]
    decide
  · rw [late.1, something]
    exact .inr (.inl (List.cons_ne_nil _ _))

end Client

end LiveConfig
