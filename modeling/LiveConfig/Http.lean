import LiveConfig.Bytes

/-!
# Requests and replies

A peer is what replies to a sequence of requests. Whether a peer is reached at all is part of its
reply, so a peer that refuses connections is a peer like any other.
-/

namespace LiveConfig.Http

/-- What comes of a request. -/
inductive Reply where
  /-- No request could be made, so nothing was sent. -/
  | unbuilt
  | unreachable
  | answered (status : Nat) (body : Bytes)
deriving DecidableEq, Repr

/-- The reply to each request in turn, counted from zero. -/
abbrev Peer := Nat → Reply

/-- A peer that refuses every connection. -/
def Peer.refusing : Peer := fun _ => .unreachable

/-- The status of a peer that has no more replies. -/
def exhaustedStatus : Nat := 599

/-- Whether a status reports success. -/
def isSuccess (status : Nat) : Bool :=
  200 ≤ status && status < 300

/-- A URL without the slashes at its end. -/
def trimSlashes (url : String) : String :=
  String.ofList (url.toList.reverse.dropWhile (· == '/')).reverse

/-- The number of slashes at the end of a URL. -/
def trailingSlashes (url : String) : Nat :=
  (url.toList.reverse.takeWhile (· == '/')).length

end LiveConfig.Http
