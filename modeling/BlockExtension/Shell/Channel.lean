import BlockExtension.Files.Edit
import BlockExtension.Shell.Octets

/-!
# Channels

What a descriptor leads to. A channel is shared by all descriptors that lead to
it and remembers how far it has been read or written. A file that loses its name
goes on to exist for the channels that lead to it, under another name if it has
one.

Processes run beside each other, but are gone through one after the other. So a
queue remembers when what is in it was written, and what is written to it at an
earlier time comes before what is already there.
-/

namespace BlockExtension.Shell

/-- Something that octets are read from or written to. -/
inductive Channel where
  | device (kind : Files.Device)
  /--
  What is written to it is read from it. The stamps, the latest first, say at which
  time the content was there up to which place.
  -/
  | queue (content : ByteArray) (taken : Nat) (stamps : List (Nat × Nat))
  | file (location : Files.Location) (offset : Nat) (reads writes appends : Bool)
  | nameless (content : ByteArray) (offset : Nat)

namespace Channel

def ofContent (content : ByteArray) : Channel := .queue content 0 []

def fresh : Channel := ofContent .empty

def written (content octets : ByteArray) (place : Nat) : ByteArray :=
  let gap : ByteArray := ⟨Array.replicate (place - content.size) 0⟩
  content.extract 0 place ++ gap ++ octets ++
    content.extract (place + octets.size) content.size

def contentAt (tree : Files.Tree) (location : Files.Location) : ByteArray :=
  match tree.get? location with
  | some (.file content _) => content
  | _ => .empty

/-- The place up to which a content was there at a time; at least up to another place. -/
def placeAt (time least : Nat) (stamps : List (Nat × Nat)) (size : Nat) : Nat :=
  match stamps with
  | [] => size
  | stamps =>
      match stamps.find? fun stamp => stamp.1 ≤ time with
      | some stamp => max least stamp.2
      | none => least

/-- A queue with octets more in it, which were written at a time. -/
def enqueued (content : ByteArray) (taken : Nat) (stamps : List (Nat × Nat)) (time : Nat)
    (octets : ByteArray) : Channel :=
  let place := placeAt time taken stamps content.size
  let later := (stamps.filter fun stamp => time < stamp.1).map fun (other, stop) =>
    (other, stop + octets.size)
  let earlier := stamps.filter fun stamp => stamp.1 < time
  let filled :=
    if place = content.size then content ++ octets
    else content.extract 0 place ++ octets ++ content.extract place content.size
  .queue filled taken (later ++ (time, place + octets.size) :: earlier)

def timeOf (place : Nat) (stamps : List (Nat × Nat)) : Nat :=
  ((stamps.reverse.find? fun stamp => place ≤ stamp.2).map (·.1)).getD 0

/--
Writes octets at a time; tells what is written to now and which files there are, or
why it cannot be done.
-/
def write (tree : Files.Tree) (time : Nat) (channel : Channel) (octets : ByteArray) :
    Except Files.OsError (Files.Tree × Channel) :=
  match channel with
  | .device kind =>
      match kind.writeError? with
      | some error => .error error
      | none => .ok (tree, channel)
  | .queue content taken stamps => .ok (tree, enqueued content taken stamps time octets)
  | .nameless content offset =>
      .ok (tree, .nameless (written content octets offset) (offset + octets.size))
  | .file location offset reads writes appends =>
      if !writes then .error .badDescriptor
      else
        match tree.get? location with
        | some (.file content mode) =>
            let place := if appends then content.size else offset
            .ok (tree.revise location (.file (written content octets place) mode),
              .file location (place + octets.size) reads writes appends)
        | _ => .ok (tree, channel)

/-- What is left to be read. -/
def pending (tree : Files.Tree) : Channel → ByteArray
  | .device kind => kind.content
  | .queue content taken _ => content.extract taken content.size
  | .nameless content offset => content.extract offset content.size
  | .file location offset reads _ _ =>
      let content := contentAt tree location
      if reads then content.extract offset content.size else .empty

/-- The channel after some octets have been read from it. -/
def advanced (count : Nat) : Channel → Channel
  | .device kind => .device kind
  | .queue content taken stamps => .queue content (taken + count) stamps
  | .nameless content offset => .nameless content (offset + count)
  | .file location offset reads writes appends =>
      .file location (offset + count) reads writes appends

def readError? (tree : Files.Tree) : Channel → Option Files.OsError
  | .file location _ reads _ _ =>
      match tree.get? location with
      | some (.directory _) => some .isDirectory
      | _ => if reads then none else some .badDescriptor
  | _ => none

def readyTime (count : Nat) : Channel → Nat
  | .queue _ taken stamps => timeOf (taken + count) stamps
  | _ => 0

/--
The channel after the file at a location has lost its name, so that another tree is
left of the one so far.
-/
def detached (tree after : Files.Tree) (lost : Files.Location) (channel : Channel) : Channel :=
  match channel with
  | .file location offset reads writes appends =>
      if location = lost then
        match ((tree.namesOf lost).drop 1).find? fun name => (after.get? name).isSome with
        | some name => .file name offset reads writes appends
        | none => .nameless (contentAt tree location) offset
      else channel
  | channel => channel

/-- The channel after everything at a location has moved to another one. -/
def relocated (source target : Files.Location) (channel : Channel) : Channel :=
  match channel with
  | .file location offset reads writes appends =>
      match Files.Tree.behind? source location with
      | some rest => .file (target ++ rest) offset reads writes appends
      | none => channel
  | channel => channel

end Channel

end BlockExtension.Shell
