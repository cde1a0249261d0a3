import Mathlib.Data.Nat.Find
import Mathlib.Data.List.Forall2
import LiveConfig.Client.Fetch

/-!
# Fail-over

A search tries its peers in order. It stays with a peer up to the last attempt there, which is the
first one that succeeds, that fails for good, that ends after the time for the peer is over, or that
is the last one of the policy. The first success ends the search; a failure ends only the stay.

`search_fails_over` says of every search which requests it sends and what it gives, for all peers,
policies, outcomes and times. What attempts give and how long they take is left to the peers: an
attempt may take any time, and pauses between attempts are part of it.
-/

namespace LiveConfig.Fetch

/-! ## What a search is to do -/

/-- A peer is left after an attempt, counted from zero: the attempt succeeds, its failure is none
that may pass, the time for the peer is over, or the policy allows no further one. -/
def Leaves (retry : Retry) (peer : Nat → Attempt) (n : Nat) : Prop :=
  (∃ snapshot, (peer n).outcome = .ok snapshot) ∨
    (∃ error, (peer n).outcome = .error error ∧ error.isRetryable = false) ∨
    (∃ limit, retry.limit = some limit ∧ limit.totalNanos < (peer n).elapsed.totalNanos) ∨
    max 1 retry.attempts ≤ n + 1

/-- The last attempt at a peer is the first after which the peer is left. -/
def LastAttempt (retry : Retry) (peer : Nat → Attempt) (last : Nat) : Prop :=
  Leaves retry peer last ∧ ∀ n < last, ¬Leaves retry peer n

/-- How a peer fails: the last attempt at it, and the error of this attempt. -/
structure Failure where
  attempt : Nat
  error : ClientError

/-- A peer fails in a certain way. -/
def GivesUp (retry : Retry) (peer : Nat → Attempt) (failure : Failure) : Prop :=
  LastAttempt retry peer failure.attempt ∧ (peer failure.attempt).outcome = .error failure.error

/-- The attempts from one to another at the peer at a place. -/
def stay (place first last : Nat) : List (Nat × Nat) :=
  (List.range' first (last + 1 - first)).map fun attempt => (place, attempt)

/-- The attempts at the peers from a place on, given the last one at each. -/
def visitsFrom (place : Nat) : List Nat → List (Nat × Nat)
  | [] => []
  | last :: rest => stay place 0 last ++ visitsFrom (place + 1) rest

/-- The place of a request's peer and the attempt at it. -/
def Request.visit (r : Request) : Nat × Nat :=
  (r.peer, r.attempt)

/-! ## The last attempt at a peer -/

section Peer

variable {retry : Retry} {peer : Nat → Attempt}

/-- A failed attempt is repeated exactly if the peer is not left after it. -/
theorem leaves_failed_iff (n : Nat) (error : ClientError)
    (failed : (peer n).outcome = .error error) :
    Leaves retry peer n ↔ (retry.isOver (peer n).elapsed || !retry.repeats n error) = true := by
  have late : retry.isOver (peer n).elapsed = true ↔
      ∃ limit, retry.limit = some limit ∧ limit.totalNanos < (peer n).elapsed.totalNanos := by
    simp [Retry.isOver, Option.any_eq_true]
  have repeated : retry.repeats n error = true ↔
      n + 1 < retry.attempts ∧ error.isRetryable = true := by
    simp [Retry.repeats]
  have spent : max 1 retry.attempts ≤ n + 1 ↔ ¬n + 1 < retry.attempts := by omega
  rw [Leaves, failed, Bool.or_eq_true, late, Bool.not_eq_true', ← Bool.not_eq_true, repeated,
    spent]
  cases passing : error.isRetryable <;> simp [passing]

/-- Every peer is left at some time, since the policy allows only so many attempts. -/
theorem exists_lastAttempt (retry : Retry) (peer : Nat → Attempt) :
    ∃ last, LastAttempt retry peer last := by
  classical
  have left : ∃ n, Leaves retry peer n := ⟨retry.attempts, .inr (.inr (.inr (by omega)))⟩
  exact ⟨Nat.find left, Nat.find_spec left, fun _ earlier => Nat.find_min left earlier⟩

/-- No attempt up to the last one but the last one itself leaves the peer. -/
theorem LastAttempt.eq_of_leaves {last n : Nat} (isLast : LastAttempt retry peer last)
    (reached : n ≤ last) (left : Leaves retry peer n) : n = last := by
  by_contra other
  exact isLast.2 n (by omega) left

end Peer

/-! ## Runs that send given requests -/

/-- The requests of attempts in order, counted on from what the counter shows. -/
def numbered (counted : UInt32) : List (Nat × Nat) → List Request
  | [] => []
  | (peer, attempt) :: rest => ⟨peer, attempt, counted + 1⟩ :: numbered (counted + 1) rest

/-- A run that makes attempts in order. -/
def Run.making (counted : UInt32) (visits : List (Nat × Nat))
    (outcome : Except ClientError Snapshot) : Run where
  requests := numbered counted visits
  counted := counted + UInt32.ofNat visits.length
  outcome := outcome

theorem count_succ (counted : UInt32) (n : Nat) :
    counted + 1 + UInt32.ofNat n = counted + UInt32.ofNat (n + 1) := by
  rw [UInt32.ofNat_add, UInt32.add_assoc, UInt32.add_comm (UInt32.ofNat n)]
  rfl

theorem numbered_append (counted : UInt32) (visits later : List (Nat × Nat)) :
    numbered counted (visits ++ later) =
      numbered counted visits ++ numbered (counted + UInt32.ofNat visits.length) later := by
  induction visits generalizing counted with
  | nil => simp [numbered]
  | cons visit rest inductionHypothesis =>
    simp only [List.cons_append, numbered, inductionHypothesis, List.length_cons, count_succ]

theorem numbered_visits (counted : UInt32) (visits : List (Nat × Nat)) :
    (numbered counted visits).map Request.visit = visits := by
  induction visits generalizing counted with
  | nil => rfl
  | cons visit rest inductionHypothesis =>
    simp only [numbered, List.map_cons, inductionHypothesis]
    rfl

theorem length_numbered (counted : UInt32) (visits : List (Nat × Nat)) :
    (numbered counted visits).length = visits.length := by
  rw [← List.length_map Request.visit, numbered_visits]

/-- The counter shows at each request how many there have been. -/
theorem numbered_counted (counted : UInt32) (visits : List (Nat × Nat)) (i : Nat)
    (request : Request) (sent : (numbered counted visits)[i]? = some request) :
    request.counted = counted + UInt32.ofNat (i + 1) := by
  induction visits generalizing counted i with
  | nil => simp [numbered] at sent
  | cons visit rest inductionHypothesis =>
    cases i with
    | zero =>
      simp only [numbered, List.getElem?_cons_zero, Option.some.injEq] at sent
      rw [← sent]
      rfl
    | succ i =>
      rw [numbered, List.getElem?_cons_succ] at sent
      rw [inductionHypothesis _ i sent, count_succ]

/-- A run that goes on where other attempts have left the counter makes those attempts first. -/
theorem making_preceded (counted : UInt32) (visits later : List (Nat × Nat))
    (outcome : Except ClientError Snapshot) :
    (Run.making (counted + UInt32.ofNat visits.length) later outcome).preceded
        (numbered counted visits) = .making counted (visits ++ later) outcome := by
  simp only [Run.making, Run.preceded, numbered_append, List.length_append, UInt32.ofNat_add,
    UInt32.add_assoc]

theorem stay_self (place last : Nat) : stay place last last = [(place, last)] := by
  simp [stay]

theorem stay_step (place first last : Nat) (earlier : first < last) :
    stay place first last = [(place, first)] ++ stay place (first + 1) last := by
  have left : last + 1 - first = (last + 1 - (first + 1)) + 1 := by omega
  rw [stay, left, List.range'_succ, List.map_cons]
  rfl

/-- A peer is tried up to the last attempt at it, which decides what comes of it. The repetitions
that are left suffice to get there, since those of the policy do. -/
theorem tryFrom_eq (retry : Retry) (place : Nat) (peer : Nat → Attempt) (last : Nat)
    (isLast : LastAttempt retry peer last) (counted : UInt32) (n left : Nat) (reached : n ≤ last)
    (enough : retry.attempts ≤ n + left) :
    tryFrom retry place peer counted n left =
      .making counted (stay place n last) (peer last).outcome := by
  induction left generalizing counted n with
  | zero =>
    obtain rfl := isLast.eq_of_leaves reached (.inr (.inr (.inr (by omega))))
    simp [tryFrom, Run.making, stay_self, numbered]
  | succ left inductionHypothesis =>
    cases outcome : (peer n).outcome with
    | ok snapshot =>
      obtain rfl := isLast.eq_of_leaves reached (.inl ⟨snapshot, outcome⟩)
      simp [tryFrom, outcome, Run.making, stay_self, numbered]
    | error error =>
      have leaves : Leaves retry peer n ↔
          (retry.isOver (peer n).elapsed || !retry.repeats n error) = true :=
        leaves_failed_iff n error outcome
      by_cases stops : (retry.isOver (peer n).elapsed || !retry.repeats n error) = true
      · obtain rfl := isLast.eq_of_leaves reached (leaves.mpr stops)
        simp [tryFrom, outcome, stops, Run.making, stay_self, numbered]
      · have notLast : n ≠ last := by
          rintro rfl
          exact stops (leaves.mp isLast.1)
        have later := inductionHypothesis (counted + 1) (n + 1) (by omega) (by omega)
        unfold tryFrom
        simp only [outcome, if_neg stops, later, stay_step place n last (by omega)]
        exact making_preceded counted [(place, n)] _ _

/-- A peer is tried up to the last attempt at it. -/
theorem tryPeer_eq (retry : Retry) (place : Nat) (peer : Nat → Attempt) (last : Nat)
    (isLast : LastAttempt retry peer last) (counted : UInt32) :
    tryPeer retry place peer counted =
      .making counted (stay place 0 last) (peer last).outcome :=
  tryFrom_eq retry place peer last isLast counted 0 retry.attempts (Nat.zero_le _) (by omega)

/-! ## Searches -/

/-- A peer that fails hands over to the next one. -/
theorem searchFrom_failed (retry : Retry) (place : Nat) (counted : UInt32)
    (earlier : Option ClientError) (peer : Nat → Attempt) (rest : List (Nat → Attempt))
    (failure : Failure) (fails : GivesUp retry peer failure) :
    searchFrom retry place counted earlier (peer :: rest) =
      (searchFrom retry (place + 1)
        (counted + UInt32.ofNat (stay place 0 failure.attempt).length) (some failure.error)
        rest).preceded (numbered counted (stay place 0 failure.attempt)) := by
  simp only [searchFrom, tryPeer_eq retry place peer failure.attempt fails.1, Run.making, fails.2]

/-- Where some peer delivers and all before it fail, no peer after it is tried. -/
theorem searchFrom_delivers (retry : Retry) (place : Nat) (counted : UInt32)
    (earlier : Option ClientError) (before : List (Nat → Attempt)) (failures : List Failure)
    (fail : List.Forall₂ (GivesUp retry) before failures) (peer : Nat → Attempt)
    (after : List (Nat → Attempt)) (last : Nat) (isLast : LastAttempt retry peer last)
    (snapshot : Snapshot) (delivers : (peer last).outcome = .ok snapshot) :
    searchFrom retry place counted earlier (before ++ peer :: after) =
      .making counted (visitsFrom place (failures.map Failure.attempt ++ [last]))
        (.ok snapshot) := by
  induction fail generalizing place counted earlier with
  | nil =>
    simp only [List.nil_append, searchFrom, tryPeer_eq retry place peer last isLast, Run.making,
      delivers, List.map_nil, visitsFrom, List.append_nil]
  | cons fails _ inductionHypothesis =>
    rw [List.cons_append, searchFrom_failed retry place counted earlier _ _ _ fails,
      inductionHypothesis, making_preceded]
    rfl

/-- Where all peers fail, the search ends with the error of the last one, or with an earlier one if
there is no peer. -/
theorem searchFrom_exhausted (retry : Retry) (place : Nat) (counted : UInt32)
    (earlier : Option ClientError) (peers : List (Nat → Attempt)) (failures : List Failure)
    (fail : List.Forall₂ (GivesUp retry) peers failures) :
    searchFrom retry place counted earlier peers =
      let visits := visitsFrom place (failures.map Failure.attempt)
      .making counted visits (.error (.exhausted (counted + UInt32.ofNat visits.length).toNat
        ((failures.getLast?.map Failure.error).or earlier))) := by
  induction fail generalizing place counted earlier with
  | nil => simp [searchFrom, Run.making, visitsFrom, numbered]
  | @cons peer failure rest later fails _ inductionHypothesis =>
    rw [searchFrom_failed retry place counted earlier peer rest failure fails, inductionHypothesis,
      making_preceded]
    have total : counted + UInt32.ofNat (stay place 0 failure.attempt).length +
        UInt32.ofNat (visitsFrom (place + 1) (later.map Failure.attempt)).length =
        counted + UInt32.ofNat
          (visitsFrom place ((failure :: later).map Failure.attempt)).length := by
      rw [UInt32.add_assoc, ← UInt32.ofNat_add, ← List.length_append]
      rfl
    have final : (later.getLast?.map Failure.error).or (some failure.error) =
        ((failure :: later).getLast?.map Failure.error).or earlier := by
      rw [List.getLast?_cons]
      cases later.getLast? <;> rfl
    rw [total, final]
    rfl

/-- Either some peer delivers and all before it fail, or all peers fail. -/
theorem delivers_or_exhausted (retry : Retry) (peers : List (Nat → Attempt)) :
    (∃ before peer after failures last snapshot, peers = before ++ peer :: after ∧
      List.Forall₂ (GivesUp retry) before failures ∧ LastAttempt retry peer last ∧
      (peer last).outcome = .ok snapshot) ∨
    ∃ failures, List.Forall₂ (GivesUp retry) peers failures := by
  induction peers with
  | nil => exact .inr ⟨[], .nil⟩
  | cons peer rest inductionHypothesis =>
    obtain ⟨last, isLast⟩ := exists_lastAttempt retry peer
    cases outcome : (peer last).outcome with
    | ok snapshot => exact .inl ⟨[], peer, rest, [], last, snapshot, rfl, .nil, isLast, outcome⟩
    | error error =>
      have fails : GivesUp retry peer ⟨last, error⟩ := ⟨isLast, outcome⟩
      rcases inductionHypothesis with
        ⟨before, deliverer, after, failures, n, snapshot, rfl, fail, isLast, delivers⟩ |
        ⟨failures, fail⟩
      · exact .inl ⟨peer :: before, deliverer, after, _ :: failures, n, snapshot, rfl,
          .cons fails fail, isLast, delivers⟩
      · exact .inr ⟨_ :: failures, .cons fails fail⟩

/-- A peer's attempts are no more than the requests so far. -/
theorem attempt_le (place : Nat) (lasts : List Nat) (i : Nat) (visit : Nat × Nat)
    (made : (visitsFrom place lasts)[i]? = some visit) : visit.2 ≤ i := by
  induction lasts generalizing place i with
  | nil => simp [visitsFrom] at made
  | cons last rest inductionHypothesis =>
    have length : (stay place 0 last).length = last + 1 := by simp [stay]
    rw [visitsFrom] at made
    by_cases here : i < last + 1
    · rw [List.getElem?_append_left (by omega)] at made
      obtain ⟨attempt, nth, rfl⟩ : ∃ attempt, attempt = i ∧ (place, attempt) = visit := by
        simpa [stay, List.getElem?_range', here] using made
      exact Nat.le_of_eq nth
    · rw [List.getElem?_append_right (by omega)] at made
      have := inductionHypothesis (place + 1) _ made
      omega

/-- While the requests are not too many for its word, the counter is exact. -/
theorem making_counts (lasts : List Nat) (outcome : Except ClientError Snapshot)
    (few : (Run.making 0 (visitsFrom 0 lasts) outcome).requests.length < UInt32.size) (i : Nat)
    (request : Request)
    (sent : (Run.making 0 (visitsFrom 0 lasts) outcome).requests[i]? = some request) :
    request.counted.toNat = i + 1 ∧ request.attempt < request.counted.toNat := by
  have inside := (List.getElem?_eq_some_iff.mp sent).1
  have counted : request.counted.toNat = i + 1 := by
    rw [numbered_counted 0 _ i request sent, UInt32.zero_add, UInt32.toNat_ofNat_of_lt' (by omega)]
  have visited : (visitsFrom 0 lasts)[i]? = some request.visit := by
    rw [← numbered_visits 0 (visitsFrom 0 lasts), List.getElem?_map]
    exact congrArg (Option.map Request.visit) sent
  have attempt : request.attempt ≤ i := attempt_le 0 lasts i _ visited
  exact ⟨counted, by omega⟩

/-- What a search of any peers does. It tries them in order, each up to the last attempt there.
Either some peer delivers, all before it fail and nothing is sent after its snapshot, or all peers
fail and the error names the number of requests, as long as this fits its word, and the last error.

Unless the requests are too many for the word, the counter shows at every request how many there
have been, and the attempts at a peer, which are counted apart, never outnumber them. -/
theorem search_fails_over (retry : Retry) (peers : List (Nat → Attempt)) (any : peers ≠ []) :
    ((∃ before peer after failures last snapshot, peers = before ++ peer :: after ∧
        List.Forall₂ (GivesUp retry) before failures ∧ LastAttempt retry peer last ∧
        (peer last).outcome = .ok snapshot ∧ search retry peers = .ok snapshot ∧
        (run retry peers).requests.map Request.visit =
          visitsFrom 0 (failures.map Failure.attempt ++ [last])) ∨
      ∃ failures final, List.Forall₂ (GivesUp retry) peers (failures ++ [final]) ∧
        (run retry peers).requests.map Request.visit =
          visitsFrom 0 ((failures ++ [final]).map Failure.attempt) ∧
        ((run retry peers).requests.length < UInt32.size →
          ∃ exhausted, search retry peers = .error exhausted ∧
            exhausted = .exhausted (run retry peers).requests.length (some final.error) ∧
            exhausted.message = "Request failed after " ++
              Decimal.showInt (run retry peers).requests.length ++ " attempts: " ++
              final.error.message)) ∧
    ((run retry peers).requests.length < UInt32.size →
      ∀ i request, (run retry peers).requests[i]? = some request →
        request.counted.toNat = i + 1 ∧ request.attempt < request.counted.toNat) := by
  have searched : search retry peers = (run retry peers).outcome := by
    rw [search, if_neg (by simpa using any)]
  rcases delivers_or_exhausted retry peers with
    ⟨before, peer, after, failures, last, snapshot, split, fail, isLast, delivers⟩ |
    ⟨failures, fail⟩
  · have made : run retry peers =
        .making 0 (visitsFrom 0 (failures.map Failure.attempt ++ [last])) (.ok snapshot) := by
      rw [split]
      exact searchFrom_delivers retry 0 0 none before failures fail peer after last isLast snapshot
        delivers
    rw [searched, made]
    refine ⟨.inl ⟨before, peer, after, failures, last, snapshot, split, fail, isLast, delivers, rfl,
      ?_⟩, making_counts _ _⟩
    exact numbered_visits 0 _
  · obtain ⟨front, final, rfl⟩ : ∃ front final, failures = front ++ [final] := by
      refine List.eq_nil_or_concat' failures |>.resolve_left ?_
      rintro rfl
      exact any (List.forall₂_nil_right_iff.mp fail)
    obtain ⟨visits, same⟩ : ∃ visits,
        visits = visitsFrom 0 ((front ++ [final]).map Failure.attempt) := ⟨_, rfl⟩
    have made : run retry peers = .making 0 visits
        (.error (.exhausted (UInt32.ofNat visits.length).toNat (some final.error))) := by
      rw [run, searchFrom_exhausted retry 0 0 none peers (front ++ [final]) fail, ← same,
        List.getLast?_concat]
      simp only [UInt32.zero_add, Option.map_some, Option.or_none]
    have length : (run retry peers).requests.length = visits.length := by
      rw [made]
      exact length_numbered 0 visits
    refine ⟨.inr ⟨front, final, fail, ?_, fun few => ⟨_, ?_, rfl, rfl⟩⟩, ?_⟩
    · rw [made, ← same]
      exact numbered_visits 0 visits
    · rw [length] at few
      rw [searched, length, made, Run.making, UInt32.toNat_ofNat_of_lt' few]
    · rw [made, same]
      exact making_counts _ _

/-- A peer that does not answer, and the second time not until the time is over. -/
def slow : Nat → Attempt
  | 0 => { outcome := .error .unreachable }
  | _ => { outcome := .error .unreachable, elapsed := .ofSeconds 61 }

/-- A peer that answers with something else. -/
def garbled : Nat → Attempt := fun _ => { outcome := .error (.config .undecodable) }

/-- A peer that is overloaded at first. -/
def busy : Nat → Attempt
  | 0 => { outcome := .error (.status 503) }
  | _ => { outcome := .ok {} }

/-- The first peer is left when its time is over, the second one at once, and the third one delivers
when it is tried again. The one after it is not tried. -/
theorem third_peer_delivers :
    [slow, garbled, busy, slow] ≠ [] ∧ search .standard [slow, garbled, busy, slow] = .ok {} ∧
      (run .standard [slow, garbled, busy, slow]).requests.map Request.visit =
        [(0, 0), (0, 1), (1, 0), (2, 0), (2, 1)] ∧
      ∀ i request, (run .standard [slow, garbled, busy, slow]).requests[i]? = some request →
        request.counted.toNat = i + 1 := by
  have any : [slow, garbled, busy, slow] ≠ [] := List.cons_ne_nil _ _
  have sent : (run .standard [slow, garbled, busy, slow]).requests.map Request.visit =
      [(0, 0), (0, 1), (1, 0), (2, 0), (2, 1)] := rfl
  obtain ⟨-, counts⟩ := search_fails_over .standard [slow, garbled, busy, slow] any
  have few : (run .standard [slow, garbled, busy, slow]).requests.length < UInt32.size := by
    rw [← List.length_map Request.visit, sent]
    decide
  exact ⟨any, rfl, sent, fun i request nth => (counts few i request nth).1⟩

end LiveConfig.Fetch
