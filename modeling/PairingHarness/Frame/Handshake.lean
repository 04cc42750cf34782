/-
The handshake frame, which the service sends right after a session opens.

It has a link and may have an id for the channel, under one of three
spellings; an id that is absent, null or empty is taken from the last
segment of the link. A frame that leaves the channel without an id is
refused.
-/
import PairingHarness.Failure
import PairingHarness.Frame.Link
import PairingHarness.Frame.Record

namespace PairingHarness

/-- What the service says about a fresh session. -/
structure Handshake where
  /-- The path under which the peer joins. -/
  link : String
  channelId : String
  deriving DecidableEq, Repr

namespace Handshake

open Json

-- =============================================================== reading

structure Fields where
  link : Option String
  /-- The id, null or a string, where the field came. -/
  channelId : Option (Option String)
  deriving DecidableEq, Repr

def idNames : List String := ["channelid", "channel_id", "channelId"]

/-- What a handshake does with a member. -/
def slot (f : Fields) (name : String) : Slot Fields :=
  if name = "link" then
    if f.link.isSome then .taken "link"
    else .reads fun s =>
      (readTextField s).map fun (t, r) => ({ f with link := some t }, r)
  else if idNames.contains name then
    if f.channelId.isSome then .taken "channelid"
    else .reads fun s =>
      (readOptionalTextField s).map
        fun (t, r) => ({ f with channelId := some t }, r)
  else .unknown

/-- Reads the frame from after its opening brace: the link and the id. -/
def ofObject (s : List Char) :
    Except Fault ((String × Option String) × List Char) := do
  let (f, rest) ← readFields slot (s.length + 1) true ⟨none, none⟩ s
  match f.link with
  | some link => return ((link, f.channelId.join), rest)
  | none => .error (.before (.missingField "link") rest)

/-- What the frame is called in a message. -/
def described : String := "struct RawHandshake"

/-- Reads the frame from after its opening bracket: the link, and the id
unless the array ends. -/
def ofArray (s : List Char) :
    Except Fault ((String × Option String) × List Char) := do
  match ← nextItem true s with
  | (false, rest) =>
    .error (.before (.wrongLength 0 (described ++ " with 2 elements")) rest)
  | (true, s) =>
    let (link, s) ← readTextField s
    match ← nextItem false s with
    | (false, rest) => return ((link, none), rest)
    | (true, s) =>
      let (id, s) ← readOptionalTextField s
      return ((link, id), ← readListEnd s)

-- =============================================================== meaning

/-- The id of a channel: the one given, or the last segment of the link. -/
def resolveId (link : String) (id : Option String) : String :=
  match id with
  | some id => if id = "" then Link.tail link else id
  | none => Link.tail link

/-- Decodes a handshake frame. -/
def parse (text : String) : Except Failure Handshake :=
  match readRecord described ofObject ofArray text.toList with
  | .error f => .error (.handshake (f.message text.toList))
  | .ok (link, id) =>
    let channelId := resolveId link id
    if channelId = "" then
      .error (.handshake
        ("no channel id in frame and none derivable from link "
          ++ Text.quoted link))
    else .ok ⟨link, channelId⟩

/-- The link without its channel segment. -/
def linkBase (h : Handshake) : String :=
  Link.base h.link

end Handshake

end PairingHarness
