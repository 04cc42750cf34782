/-
The relay frame, in which the service hands on what the other party sent.

It has the message, exactly as it was sent, and an object that describes the
sender. A sender who is not local is marked by a member `remote`, whatever
it holds.
-/
import PairingHarness.Failure
import PairingHarness.Frame.Record

namespace PairingHarness

/-- A relayed message. -/
structure RelayFrame where
  message : String
  sender : List (String × Json.Value)
  deriving Repr

namespace RelayFrame

open Json

structure Fields where
  message : Option String
  sender : Option (List (String × Value))
  deriving Repr

/-- How deep the sender may be nested: the frame around it takes one level. -/
def senderDepth : Nat := maxDepth - 1

/-- What a relay frame does with a member. -/
def slot (f : Fields) (name : String) : Slot Fields :=
  if name = "message" then
    if f.message.isSome then .taken "message"
    else .reads fun s =>
      (readTextField s).map fun (t, r) => ({ f with message := some t }, r)
  else if name = "sender" then
    if f.sender.isSome then .taken "sender"
    else .reads fun s =>
      (readObjectField senderDepth s).map
        fun (m, r) => ({ f with sender := some m }, r)
  else .unknown

/-- Reads the frame from after its opening brace. -/
def ofObject (s : List Char) : Except Fault (RelayFrame × List Char) := do
  let (f, rest) ← readFields slot (s.length + 1) true ⟨none, none⟩ s
  match f.message, f.sender with
  | some message, some sender => return (⟨message, sender⟩, rest)
  | none, _ => .error (.before (.missingField "message") rest)
  | some _, none => .error (.before (.missingField "sender") rest)

/-- What the frame is called in a message. -/
def described : String := "struct RelayFrame"

/-- Reads the frame from after its opening bracket: the message, then the
sender. -/
def ofArray (s : List Char) : Except Fault (RelayFrame × List Char) := do
  let tooShort (n : Nat) (rest : List Char) : Fault :=
    .before (.wrongLength n (described ++ " with 2 elements")) rest
  match ← nextItem true s with
  | (false, rest) => .error (tooShort 0 rest)
  | (true, s) =>
    let (message, s) ← readTextField s
    match ← nextItem false s with
    | (false, rest) => .error (tooShort 1 rest)
    | (true, s) =>
      let (sender, s) ← readObjectField senderDepth s
      return (⟨message, sender⟩, ← readListEnd s)

/-- How many characters of a text a message about it shows. -/
def shownLength : Nat := 80

/-- The start of a text, as a message shows it. -/
def shown (text : String) : String :=
  String.ofList (text.toList.take shownLength)

/-- Decodes a relay frame. -/
def parse (text : String) : Except Failure RelayFrame :=
  match readRecord described ofObject ofArray text.toList with
  | .error f => .error (.frame (f.message text.toList ++ ": " ++ shown text))
  | .ok frame => .ok frame

/-- Whether the sender is marked as remote. -/
def hasRemoteSender (f : RelayFrame) : Bool :=
  f.sender.any (·.1 == "remote")

end RelayFrame

end PairingHarness
