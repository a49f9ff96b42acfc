import Dialogs.Yaml.Token

/-!
# Nodes of a YAML document

A document is a tree of scalars, sequences and mappings. A node may carry an anchor, by which later nodes
repeat it; here every repetition is written out, so that a tree says all that there is to say. How much is
repeated is limited: a document of few nodes could stand for a tree that is too large to be walked.
-/

namespace Dialogs.Yaml

/-- A node of a document. -/
inductive Node where
  /-- A text, and whether it is written without quotes. -/
  | scalar (text : String) (plain : Bool) (tag : Option String)
  | sequence (entries : List Node) (tag : Option String)
  | mapping (entries : List (Node × Node)) (tag : Option String)
  deriving Repr

namespace Node

/-- What stands where nothing is written. -/
def empty : Node := .scalar "" true none

end Node

/-- A node that has an anchor, and how many repetitions are in it. -/
structure Anchored where
  node : Node
  repetitions : Nat

/-- What has been read of a document. -/
structure Reading where
  tokens : List Token
  /-- What the handles of tags stand for. -/
  handles : List (String × String)
  /-- The anchors, last first. One has no node as long as the node is being read. -/
  anchors : List (String × Option Anchored) := []
  /-- The number of repetitions that are written out. -/
  repetitions : Nat := 0
  /-- The number of begins and ends of nodes. -/
  events : Nat := 0

namespace Reading

/-- The handles that need no directive. -/
def standardHandles : List (String × String) := [("!", "!"), ("!!", "tag:yaml.org,2002:")]

/-- The next token. -/
def next (reading : Reading) : Option Token := reading.tokens.head?

/-- What is left behind the next token. -/
def skip (reading : Reading) : Reading := { reading with tokens := reading.tokens.tail }

/-- Counts begins and ends of nodes. -/
def count (reading : Reading) (events : Nat) : Reading :=
  { reading with events := reading.events + events }

/-- The properties of a node: its anchor and its tag, in either order. -/
structure Properties where
  anchor : Option String := none
  tag : Option String := none

/-- What a tag stands for, if its handle is known. -/
def tagText (reading : Reading) (handle : Option String) (suffix : String) : Option String :=
  match handle with
  | none => some suffix
  | some handle => do
    let (_, meaning) ← reading.handles.find? fun (known, _) => known == handle
    return meaning ++ suffix

/-- Reads the properties of a node. -/
def properties (reading : Reading) : Option (Properties × Reading) :=
  match reading.tokens with
  | .anchor anchor :: .tag handle suffix :: tokens
  | .tag handle suffix :: .anchor anchor :: tokens => do
    let tag ← reading.tagText handle suffix
    return (⟨some anchor, some tag⟩, { reading with tokens })
  | .anchor anchor :: tokens => some (⟨some anchor, none⟩, { reading with tokens })
  | .tag handle suffix :: tokens => do
    let tag ← reading.tagText handle suffix
    return (⟨none, some tag⟩, { reading with tokens })
  | _ => some ({}, reading)

/-- Repeats the node of an anchor. A node cannot be repeated in itself. -/
def repeated (reading : Reading) (name : String) : Option (Node × Reading) := do
  let (_, anchored) ← reading.anchors.find? fun (known, _) => known == name
  let anchored ← anchored
  return (anchored.node,
    { reading with repetitions := reading.repetitions + anchored.repetitions + 1 }.count 1)

/-- Begins the node of an anchor. -/
def begin (reading : Reading) (anchor : Option String) : Reading :=
  match anchor with
  | none => reading
  | some name => { reading with anchors := (name, none) :: reading.anchors }

/-- Ends the node of an anchor, which began in `before`. An anchor of the same name within the node is later,
and keeps its own node. -/
def finish (reading : Reading) (anchor : Option String) (before : Reading) (node : Node) : Reading :=
  match anchor with
  | none => reading
  | some name =>
    let position := reading.anchors.length - before.anchors.length - 1
    let repetitions := reading.repetitions - before.repetitions
    { reading with anchors := reading.anchors.set position (name, some ⟨node, repetitions⟩) }

/-- Whether nothing is written where a node of a block could stand: a token of the surrounding block is
next. -/
def isMissing (reading : Reading) (closing : List Token) : Bool :=
  match reading.next with
  | some token => closing.contains token
  | none => false

mutual

/-- Reads a node. A block can stand only where `block` says so, and a sequence that is not indented only
as part of a mapping. -/
def node (block inMapping : Bool) (fuel : Nat) (reading : Reading) : Option (Node × Reading) :=
  match fuel with
  | 0 => none
  | fuel + 1 =>
    match reading.next with
    | some (.alias name) => reading.skip.repeated name
    | _ => do
      let (properties, start) ← reading.properties
      let (found, behind) ← content block inMapping properties fuel (start.begin properties.anchor)
      return (found, behind.finish properties.anchor start found)

/-- Reads a node behind its properties. -/
def content (block inMapping : Bool) (properties : Properties) (fuel : Nat) (reading : Reading) :
    Option (Node × Reading) :=
  match fuel with
  | 0 => none
  | fuel + 1 =>
    let sequence (entries : Option (List Node × Reading)) : Option (Node × Reading) :=
      entries.map fun (entries, behind) => (.sequence entries properties.tag, behind.count 2)
    let mapping (entries : Option (List (Node × Node) × Reading)) : Option (Node × Reading) :=
      entries.map fun (entries, behind) => (.mapping entries properties.tag, behind.count 2)
    match reading.next with
    | some (.scalar text plain) =>
      let tag := properties.tag.filter (· != "!")
      some (.scalar text plain tag, reading.skip.count 1)
    | some .flowSequence => sequence (flowEntries true fuel reading.skip)
    | some .flowMapping => mapping (flowPairs true fuel reading.skip)
    | some .entry => if inMapping then sequence (looseEntries fuel reading) else blank properties reading
    | some .blockSequence =>
      if block then sequence (blockEntries fuel reading.skip) else blank properties reading
    | some .blockMapping =>
      if block then mapping (blockPairs fuel reading.skip) else blank properties reading
    | _ => blank properties reading

/-- A node that has properties and no content. -/
def blank (properties : Properties) (reading : Reading) : Option (Node × Reading) :=
  if properties.anchor.isSome || properties.tag.isSome then
    some (.scalar "" true properties.tag, reading.count 1)
  else none

/-- Reads a node of a block, or nothing if a token of the surrounding block is next. -/
def blockNode (inMapping : Bool) (closing : List Token) (fuel : Nat) (reading : Reading) :
    Option (Node × Reading) :=
  match fuel with
  | 0 => none
  | fuel + 1 =>
    if reading.isMissing closing then some (.empty, reading.count 1)
    else node true inMapping fuel reading

/-- Reads the entries of a sequence up to the end of its block. -/
def blockEntries (fuel : Nat) (reading : Reading) : Option (List Node × Reading) :=
  match fuel with
  | 0 => none
  | fuel + 1 =>
    match reading.next with
    | some .entry => do
      let (entry, behind) ← blockNode false [.entry, .blockEnd] fuel reading.skip
      let (entries, behind) ← blockEntries fuel behind
      return (entry :: entries, behind)
    | some .blockEnd => some ([], reading.skip)
    | _ => none

/-- Reads the entries of a sequence that is not indented. -/
def looseEntries (fuel : Nat) (reading : Reading) : Option (List Node × Reading) :=
  match fuel with
  | 0 => none
  | fuel + 1 =>
    match reading.next with
    | some .entry => do
      let (entry, behind) ← blockNode false [.entry, .key, .value, .blockEnd] fuel reading.skip
      let (entries, behind) ← looseEntries fuel behind
      return (entry :: entries, behind)
    | _ => some ([], reading)

/-- Reads the entries of a mapping up to the end of its block. -/
def blockPairs (fuel : Nat) (reading : Reading) : Option (List (Node × Node) × Reading) :=
  match fuel with
  | 0 => none
  | fuel + 1 =>
    match reading.next with
    | some .key => do
      let (key, behind) ← blockNode true [.key, .value, .blockEnd] fuel reading.skip
      let (value, behind) ←
        if behind.next == some .value then
          blockNode true [.key, .value, .blockEnd] fuel behind.skip
        else some (.empty, behind.count 1)
      let (pairs, behind) ← blockPairs fuel behind
      return ((key, value) :: pairs, behind)
    | some .blockEnd => some ([], reading.skip)
    | _ => none

/-- Reads a node within brackets, or nothing if a token of the surrounding bracket is next. -/
def flowNode (closing : List Token) (fuel : Nat) (reading : Reading) : Option (Node × Reading) :=
  match fuel with
  | 0 => none
  | fuel + 1 =>
    if reading.isMissing closing then some (.empty, reading.count 1)
    else node false false fuel reading

/-- Reads the value of a pair within brackets. -/
def flowValue (closing : Token) (fuel : Nat) (reading : Reading) : Option (Node × Reading) :=
  match fuel with
  | 0 => none
  | fuel + 1 =>
    if reading.next == some .value then flowNode [.flowEntry, closing] fuel reading.skip
    else some (.empty, reading.count 1)

/-- Reads the entries of a sequence up to its bracket. A pair among them is a mapping of its own. -/
def flowEntries (first : Bool) (fuel : Nat) (reading : Reading) : Option (List Node × Reading) :=
  match fuel with
  | 0 => none
  | fuel + 1 =>
    let entries (reading : Reading) : Option (List Node × Reading) :=
      match reading.next with
      | some .flowSequenceEnd => some ([], reading.skip)
      | some .key => do
        let closing := [.value, .flowEntry, .flowSequenceEnd]
        let (key, behind) ← flowNode closing fuel reading.skip
        let behind := if reading.skip.isMissing closing then behind.skip else behind
        let (value, behind) ← flowValue .flowSequenceEnd fuel behind
        let (entries, behind) ← flowEntries false fuel (behind.count 2)
        return (.mapping [(key, value)] none :: entries, behind)
      | _ => do
        let (entry, behind) ← node false false fuel reading
        let (entries, behind) ← flowEntries false fuel behind
        return (entry :: entries, behind)
    match first, reading.next with
    | false, some .flowEntry => entries reading.skip
    | false, some .flowSequenceEnd => some ([], reading.skip)
    | false, _ => none
    | true, _ => entries reading

/-- Reads the entries of a mapping up to its bracket. -/
def flowPairs (first : Bool) (fuel : Nat) (reading : Reading) :
    Option (List (Node × Node) × Reading) :=
  match fuel with
  | 0 => none
  | fuel + 1 =>
    let pairs (reading : Reading) : Option (List (Node × Node) × Reading) :=
      match reading.next with
      | some .flowMappingEnd => some ([], reading.skip)
      | some .key => do
        let (key, behind) ← flowNode [.value, .flowEntry, .flowMappingEnd] fuel reading.skip
        let (value, behind) ← flowValue .flowMappingEnd fuel behind
        let (pairs, behind) ← flowPairs false fuel behind
        return ((key, value) :: pairs, behind)
      | _ => do
        let (key, behind) ← node false false fuel reading
        let (pairs, behind) ← flowPairs false fuel (behind.count 1)
        return ((key, .empty) :: pairs, behind)
    match first, reading.next with
    | false, some .flowEntry => pairs reading.skip
    | false, some .flowMappingEnd => some ([], reading.skip)
    | false, _ => none
    | true, _ => pairs reading

end

/-- Reads the directives in front of a document. The version is given at most once, and so is what a handle
stands for. -/
def directives (versioned : Bool) (bound : List (String × String)) :
    List Token → Option (List (String × String) × List Token)
  | .directive none :: rest => if versioned then none else directives true bound rest
  | .directive (some (handle, meaning)) :: rest =>
    if bound.any fun (known, _) => known == handle then none
    else directives versioned ((handle, meaning) :: bound) rest
  | rest => some (bound, rest)

/-- Whether a document has no content: nothing or the next boundary follows. -/
def isBare : List Token → Bool
  | [] | .documentStart :: _ | .documentEnd :: _ | .directive _ :: _ => true
  | _ => false

/-- How often nodes may be repeated, for each begin and end of a node. -/
def repetitionLimit : Nat := 100

/-- Reads the content of a document: its tree, and what is behind it. -/
def document (handles : List (String × String)) (tokens : List Token) :
    Option (Node × List Token) := do
  let start : Reading := { tokens, handles }
  let (root, behind) ← start.node true false (3 * tokens.length + 3)
  if behind.repetitions > behind.events * repetitionLimit then none
  return (root, behind.tokens)

end Reading

/-- The tree of a text, unless it is malformed or has several documents. An empty text has no tree. -/
def Node.read (text : String) : Option (Option Node) := do
  let tokens ← tokensOf text
  let (bound, rest) ← Reading.directives false [] tokens
  let (root, behind) ← match rest with
    | [] => if tokens.isEmpty then some (none, []) else none
    | .documentStart :: rest =>
      if Reading.isBare rest then some (some Node.empty, rest)
      else (Reading.document (bound ++ Reading.standardHandles) rest).map fun (root, behind) =>
        (some root, behind)
    | rest =>
      if tokens.length = rest.length then
        (Reading.document Reading.standardHandles rest).map fun (root, behind) => (some root, behind)
      else none
  if behind.all (· == .documentEnd) then return root else none

end Dialogs.Yaml
