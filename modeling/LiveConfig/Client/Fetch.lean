import LiveConfig.Client.Retry
import LiveConfig.Wire.ConfigMessage

/-!
# Fetching snapshots

A snapshot is fetched from the first of several peers that gives one. Each peer is tried as long as
the retry policy repeats its attempts and the time for it is not over; then the next one is tried.

A search is known by the requests that it sends as well as by what it gives. It counts them over all
peers in a word of 32 bits, which starts over when it is full.
-/

namespace LiveConfig.Fetch

/-- One attempt: what came of it, and the time that had passed by then since its peer was first
tried. -/
structure Attempt where
  outcome : Except ClientError Snapshot
  elapsed : Duration := .ofSeconds 0

/-- What a reply to a fetch gives. -/
def outcomeOf : Http.Reply → Except ClientError Snapshot
  | .unbuilt => .error .unbuilt
  | .unreachable => .error .unreachable
  | .answered status body =>
    if Http.isSuccess status then
      match Snapshot.decode? body with
      | some snapshot => .ok snapshot
      | none => .error (.config .undecodable)
    else .error (.status status)

/-- The attempts that a peer answers in time. -/
def attemptsAt (peer : Http.Peer) : Nat → Attempt := fun n =>
  { outcome := outcomeOf (peer n) }

/-- A request that a search sends. -/
structure Request where
  /-- The place of its peer among the peers. -/
  peer : Nat
  /-- The number of attempts at the peer before this one, all of which have failed. -/
  attempt : Nat
  /-- What the counter of requests shows with this one. -/
  counted : UInt32
deriving DecidableEq, Repr

/-- What a search, or a part of it, comes to. -/
structure Run where
  /-- The requests that were sent, in order. -/
  requests : List Request := []
  /-- What the counter of requests shows in the end. -/
  counted : UInt32
  outcome : Except ClientError Snapshot

/-- A run before which requests have been sent. -/
def Run.preceded (run : Run) (requests : List Request) : Run :=
  { run with requests := requests ++ run.requests }

/-- Tries the peer at a place from an attempt on, where at most so many repetitions are left and the
counter of requests shows what it does. -/
def tryFrom (retry : Retry) (place : Nat) (attempts : Nat → Attempt) (counted : UInt32) :
    Nat → Nat → Run
  | n, left =>
    let request : Request := { peer := place, attempt := n, counted := counted + 1 }
    match (attempts n).outcome, left with
    | .error error, left + 1 =>
      if retry.isOver (attempts n).elapsed || !retry.repeats n error then
        { requests := [request], counted := counted + 1, outcome := .error error }
      else (tryFrom retry place attempts (counted + 1) (n + 1) left).preceded [request]
    | outcome, _ => { requests := [request], counted := counted + 1, outcome }
termination_by structural _ left => left

/-- Tries the peer at a place. -/
def tryPeer (retry : Retry) (place : Nat) (attempts : Nat → Attempt) (counted : UInt32) : Run :=
  tryFrom retry place attempts counted 0 retry.attempts

/-- Tries the peers from a place on in turn, given what the counter of requests shows and the last
error. -/
def searchFrom (retry : Retry) (place : Nat) (counted : UInt32) (last : Option ClientError) :
    List (Nat → Attempt) → Run
  | [] => { counted, outcome := .error (.exhausted counted.toNat last) }
  | peer :: rest =>
    let tried := tryPeer retry place peer counted
    match tried.outcome with
    | .ok _ => tried
    | .error error =>
      (searchFrom retry (place + 1) tried.counted (some error) rest).preceded tried.requests

/-- Tries all peers in turn, until one gives a snapshot. -/
def run (retry : Retry) (peers : List (Nat → Attempt)) : Run :=
  searchFrom retry 0 0 none peers

/-- Fetches from the first peer that gives a snapshot. There must be a peer. -/
def search (retry : Retry) (peers : List (Nat → Attempt)) : Except ClientError Snapshot :=
  if peers.isEmpty then .error (.options .noUrl) else (run retry peers).outcome

end LiveConfig.Fetch
