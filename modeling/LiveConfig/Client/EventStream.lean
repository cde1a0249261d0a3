import LiveConfig.Base64
import LiveConfig.Client.Error
import LiveConfig.Client.Gate
import LiveConfig.Store.Live
import LiveConfig.Text.Blank
import LiveConfig.Wire.ConfigMessage

/-!
# Streams of events

A stream is text in lines. A line names a field and gives it a value; the values of the `data`
fields up to a blank line, joined by line feeds, are the data of one event. What is not followed by
a blank line is no event.

The data of an event is a snapshot in base64. An event with blank data carries nothing, and one
whose data is malformed is passed over, so that one bad event does not end the stream; bytes that
are not text end it with an error.
-/

namespace LiveConfig.EventStream

/-- Cuts text into the lines that are ended by a line feed, a carriage return or both. A carriage
return at the very end may be half an end and counts as none. -/
def linesFrom (line : List Char) : List Char → List (List Char)
  | [] => []
  | ['\r'] => []
  | '\r' :: '\n' :: rest => line.reverse :: linesFrom [] rest
  | c :: rest =>
    if c = '\r' ∨ c = '\n' then line.reverse :: linesFrom [] rest else linesFrom (c :: line) rest

/-- The value that a line gives to the field `data`, if it does. One blank after the colon is
dropped, and a name alone gives the empty value. -/
def dataOf? (line : List Char) : Option (List Char) :=
  match Text.splitFirst ':' line with
  | none => if line = ['d', 'a', 't', 'a'] then some [] else none
  | some (name, value) =>
    if name = ['d', 'a', 't', 'a'] then
      match value with
      | ' ' :: rest => some rest
      | value => some value
    else none

/-- The data of the events in lines, given the data lines since the last event. -/
def eventsFrom (pending : List (List Char)) : List (List Char) → List String
  | [] => []
  | [] :: lines =>
    if pending.isEmpty then eventsFrom [] lines
    else String.ofList (List.intercalate ['\n'] pending) :: eventsFrom [] lines
  | line :: lines => eventsFrom (pending ++ (dataOf? line).toList) lines

/-- Text without the mark that may open a stream. -/
def withoutMark : List Char → List Char
  | '\uFEFF' :: rest => rest
  | text => text

/-- The data of the events in a text. -/
def events (text : List Char) : List String :=
  eventsFrom [] (linesFrom [] (withoutMark text))

/-- The character that some of the first bytes denote, and how many it takes. -/
def leadingChar? (bs : Bytes) : Option (List Char × Nat) :=
  [1, 2, 3, 4].findSome? fun n => do
    let text ← if n ≤ bs.length then Bytes.toText? (bs.take n) else none
    some (text.toList, n)

/-- The longest text that so many bytes start with, and whether it takes them all. -/
def leadingText : Nat → Bytes → List Char × Bool
  | _, [] => ([], true)
  | 0, _ :: _ => ([], false)
  | fuel + 1, bs =>
    match leadingChar? bs with
    | none => ([], false)
    | some (cs, n) =>
      let (more, complete) := leadingText fuel (bs.drop n)
      (cs ++ more, complete)

/-- What arrives on a stream. -/
inductive Item where
  | data (text : String)
  /-- Bytes that are not text. -/
  | broken
deriving DecidableEq, Repr

/-- What arrives on a stream of these bytes. -/
def items (body : Bytes) : List Item :=
  let (text, complete) := leadingText body.length body
  (events text).map .data ++ if complete then [] else [.broken]

/-- The snapshot in the data of an event; none if the data is blank. -/
def snapshot? (data : String) : Except ClientError (Option Snapshot) :=
  let text := Text.trim data
  if text.isEmpty then .ok none
  else
    match Base64.decode? (Bytes.ofText text) with
    | none => .error .base64
    | some bs =>
      match Snapshot.decode? bs with
      | none => .error (.config .undecodable)
      | some snapshot => .ok (some snapshot)

/-- A live store that a stream feeds, and the gate that opens when it does. -/
structure Fed where
  live : Live
  gate : Gate

/-- Takes in the data of one event. -/
def applyEvent (live : Live) (data : String) : Except ClientError (Live × Option Applied) := do
  match ← snapshot? data with
  | none => return (live, none)
  | some snapshot =>
    let (live, applied) := live.apply snapshot
    return (live, some applied)

/-- Takes in one event of a stream; a malformed one changes nothing. -/
def Fed.take (fed : Fed) (data : String) : Fed :=
  match applyEvent fed.live data with
  | .ok (live, some _) => { live, gate := fed.gate.unlock }
  | _ => fed

/-- Takes in what arrives until the stream ends or breaks. -/
def Fed.takeAll (fed : Fed) : List Item → Except ClientError Unit × Fed
  | [] => (.ok (), fed)
  | .broken :: _ => (.error .stream, fed)
  | .data text :: rest => (fed.take text).takeAll rest

/-- Follows one connection, given the reply to it. -/
def Fed.consume (fed : Fed) : Http.Reply → Except ClientError Unit × Fed
  | .unbuilt => (.error .unbuilt, fed)
  | .unreachable => (.error .unreachable, fed)
  | .answered status body =>
    if Http.isSuccess status then fed.takeAll (items body) else (.error (.status status), fed)

end LiveConfig.EventStream
