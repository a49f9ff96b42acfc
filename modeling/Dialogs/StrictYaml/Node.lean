import Dialogs.StrictYaml.Token

/-!
# Trees of strict YAML documents

The tokens of a text make up documents, each of which is a tree of scalars, sequences and mappings. A part
of a tree can be named by an anchor and repeated by an alias. A text may hold any number of documents.
-/

namespace Dialogs.StrictYaml

/-- A tag: what its handle stands for, and the rest. -/
structure Tag where
  space : String
  name : String
  deriving DecidableEq, Repr

/-- A part of a document. -/
inductive Node where
  /-- Text, and whether it is written without quotes. -/
  | scalar (text : String) (plain : Bool) (tag : Option Tag)
  | sequence (entries : List Node)
  | mapping (entries : List (Node × Node))
  /-- A repetition of the part in which it stands. -/
  | cycle
  deriving Repr

namespace Node

/-- What stands where nothing is written. -/
def empty : Node := .scalar "~" true none

end Node

/-- What has been read of a document. -/
structure Reading where
  tokens : List Token
  /-- What the handles of tags stand for. -/
  handles : List (String × String) := []
  /-- The anchors, last first. One has no node as long as the node is being read. -/
  anchors : List (String × Option Node) := []

namespace Reading

/-- The next token. -/
def next (reading : Reading) : Option Token := reading.tokens.head?

/-- What is left behind the next token. -/
def skip (reading : Reading) : Reading := { reading with tokens := reading.tokens.tail }

/-- The properties of a node: its anchor and its tag. -/
structure Properties where
  anchor : Option String := none
  tag : Option Tag := none

/-- What the standard tags begin with. -/
def standardSpace : String := "tag:yaml.org,2002:"

/-- What a handle stands for, if a directive says so. -/
def meaning? (reading : Reading) (handle : String) : Option String :=
  (reading.handles.find? fun (known, _) => known == handle).map Prod.snd

/-- The tag of a handle and the rest. Only a handle with a name has to be known. -/
def resolveTag (reading : Reading) (handle suffix : String) : Option Tag :=
  match reading.meaning? handle with
  | some space => some ⟨space, suffix⟩
  | none =>
    if handle == "!!" then some ⟨standardSpace, suffix⟩
    else if Scan.isFullHandle handle then none
    else some ⟨handle, suffix⟩

/-- Reads the properties of a node, in either order. -/
def properties (reading : Reading) : Option (Properties × Reading) :=
  match reading.tokens with
  | .anchor anchor :: .tag handle suffix :: tokens
  | .tag handle suffix :: .anchor anchor :: tokens => do
    let tag ← reading.resolveTag handle suffix
    return (⟨some anchor, some tag⟩, { reading with tokens })
  | .anchor anchor :: tokens => some (⟨some anchor, none⟩, { reading with tokens })
  | .tag handle suffix :: tokens => do
    let tag ← reading.resolveTag handle suffix
    return (⟨none, some tag⟩, { reading with tokens })
  | _ => some ({}, reading)

/-- Repeats the node of an anchor. -/
def repeated (reading : Reading) (name : String) : Option (Node × Reading) := do
  let (_, anchored) ← reading.anchors.find? fun (known, _) => known == name
  return (anchored.getD .cycle, reading)

/-- Begins the node of an anchor. -/
def begin (reading : Reading) (anchor : Option String) : Reading :=
  match anchor with
  | none => reading
  | some name => { reading with anchors := (name, none) :: reading.anchors }

/-- Ends the node of an anchor, which began in `before`. -/
def finish (reading : Reading) (anchor : Option String) (before : Reading) (node : Node) : Reading :=
  match anchor with
  | none => reading
  | some name =>
    let position := reading.anchors.length - before.anchors.length - 1
    { reading with anchors := reading.anchors.set position (name, some node) }

/-- Whether nothing is written where a node could stand: a token of what is around is next. -/
def isMissing (reading : Reading) (closing : List Token) : Bool :=
  match reading.next with
  | some token => closing.contains token
  | none => false

mutual

/-- Reads a node. A block can stand only where `block` says so, and a sequence that is not indented only
as part of a mapping. -/
def node (block inMapping : Bool) (fuel : Nat) (reading : Reading) : Option (Node × Reading) :=
  match fuel with
  | 0 => none
  | fuel + 1 =>
    match reading.next with
    | some (.alias name) => reading.skip.repeated name
    | _ => do
      let (properties, start) ← reading.properties
      let (found, behind) ← content block inMapping properties fuel (start.begin properties.anchor)
      return (found, behind.finish properties.anchor start found)

/-- Reads a node behind its properties. -/
def content (block inMapping : Bool) (properties : Properties) (fuel : Nat) (reading : Reading) :
    Option (Node × Reading) :=
  match fuel with
  | 0 => none
  | fuel + 1 =>
    let sequence (entries : Option (List Node × Reading)) : Option (Node × Reading) :=
      entries.map fun (entries, behind) => (.sequence entries, behind)
    let mapping (entries : Option (List (Node × Node) × Reading)) : Option (Node × Reading) :=
      entries.map fun (entries, behind) => (.mapping entries, behind)
    match reading.next, block, inMapping with
    | some (.scalar text plain), _, _ => some (.scalar text plain properties.tag, reading.skip)
    | some .flowSequence, _, _ => sequence (flowEntries true fuel reading.skip)
    | some .flowMapping, _, _ => mapping (flowPairs true fuel reading.skip)
    | some .entry, _, true => sequence (looseEntries fuel reading)
    | some .blockSequence, true, _ => sequence (blockEntries fuel reading.skip)
    | some .blockMapping, true, _ => mapping (blockPairs fuel reading.skip)
    | _, _, _ =>
      if properties.anchor.isSome || properties.tag.isSome then
        some (.scalar "" true properties.tag, reading)
      else none

/-- Reads a node of a block, or nothing if a token of the surrounding block is next. -/
def blockNode (inMapping : Bool) (closing : List Token) (fuel : Nat) (reading : Reading) :
    Option (Node × Reading) :=
  match fuel with
  | 0 => none
  | fuel + 1 =>
    if reading.isMissing closing then some (.empty, reading) else node true inMapping fuel reading

/-- Reads the entries of a sequence up to the end of its block. -/
def blockEntries (fuel : Nat) (reading : Reading) : Option (List Node × Reading) :=
  match fuel with
  | 0 => none
  | fuel + 1 =>
    match reading.next with
    | some .entry => do
      let (entry, behind) ← blockNode false [.entry, .blockEnd] fuel reading.skip
      let (entries, behind) ← blockEntries fuel behind
      return (entry :: entries, behind)
    | some .blockEnd => some ([], reading.skip)
    | _ => none

/-- Reads the entries of a sequence that is not indented. -/
def looseEntries (fuel : Nat) (reading : Reading) : Option (List Node × Reading) :=
  match fuel with
  | 0 => none
  | fuel + 1 =>
    match reading.next with
    | some .entry => do
      let (entry, behind) ← blockNode false [.entry, .key, .value, .blockEnd] fuel reading.skip
      let (entries, behind) ← looseEntries fuel behind
      return (entry :: entries, behind)
    | _ => some ([], reading)

/-- Reads the value of a pair in a block. -/
def blockValue (fuel : Nat) (reading : Reading) : Option (Node × Reading) :=
  match fuel with
  | 0 => none
  | fuel + 1 =>
    if reading.next == some .value then blockNode true [.key, .value, .blockEnd] fuel reading.skip
    else some (.empty, reading)

/-- Reads the entries of a mapping up to the end of its block. -/
def blockPairs (fuel : Nat) (reading : Reading) : Option (List (Node × Node) × Reading) :=
  match fuel with
  | 0 => none
  | fuel + 1 =>
    let pairs (key : Node) (reading : Reading) : Option (List (Node × Node) × Reading) := do
      let (value, behind) ← blockValue fuel reading
      let (pairs, behind) ← blockPairs fuel behind
      return ((key, value) :: pairs, behind)
    match reading.next with
    | some .key => do
      let (key, behind) ← blockNode true [.key, .value, .blockEnd] fuel reading.skip
      pairs key behind
    | some .value => pairs .empty reading
    | some .blockEnd => some ([], reading.skip)
    | _ => none

/-- Reads a node within brackets, or nothing if a token of the surrounding bracket is next. -/
def flowNode (closing : List Token) (fuel : Nat) (reading : Reading) : Option (Node × Reading) :=
  match fuel with
  | 0 => none
  | fuel + 1 =>
    if reading.isMissing closing then some (.empty, reading) else node false false fuel reading

/-- Reads the value of a pair within brackets. -/
def flowValue (closing : Token) (fuel : Nat) (reading : Reading) : Option (Node × Reading) :=
  match fuel with
  | 0 => none
  | fuel + 1 =>
    if reading.next == some .value then flowNode [.flowEntry, closing] fuel reading.skip
    else some (.empty, reading)

/-- Reads the entries of a sequence up to its bracket. A pair among them is a mapping of its own. -/
def flowEntries (first : Bool) (fuel : Nat) (reading : Reading) : Option (List Node × Reading) :=
  match fuel with
  | 0 => none
  | fuel + 1 =>
    let entries (reading : Reading) : Option (List Node × Reading) :=
      match reading.next with
      | some .flowSequenceEnd => some ([], reading.skip)
      | some .key => do
        let closing := [.value, .flowEntry, .flowSequenceEnd]
        let (key, behind) ← flowNode closing fuel reading.skip
        let behind := if reading.skip.isMissing closing then behind.skip else behind
        let (value, behind) ← flowValue .flowSequenceEnd fuel behind
        let (entries, behind) ← flowEntries false fuel behind
        return (.mapping [(key, value)] :: entries, behind)
      | _ => do
        let (entry, behind) ← node false false fuel reading
        let (entries, behind) ← flowEntries false fuel behind
        return (entry :: entries, behind)
    match first, reading.next with
    | false, some .flowEntry => entries reading.skip
    | false, some .flowSequenceEnd => some ([], reading.skip)
    | false, _ => none
    | true, _ => entries reading

/-- Reads the entries of a mapping up to its brace. -/
def flowPairs (first : Bool) (fuel : Nat) (reading : Reading) :
    Option (List (Node × Node) × Reading) :=
  match fuel with
  | 0 => none
  | fuel + 1 =>
    let pairs (key : Node) (value : Option (Node × Reading)) :
        Option (List (Node × Node) × Reading) := do
      let (value, behind) ← value
      let (pairs, behind) ← flowPairs false fuel behind
      return ((key, value) :: pairs, behind)
    let entry (reading : Reading) : Option (List (Node × Node) × Reading) :=
      match reading.next with
      | some .flowMappingEnd => some ([], reading.skip)
      | some .key => do
        let (key, behind) ← flowNode [.value, .flowEntry, .flowMappingEnd] fuel reading.skip
        pairs key (flowValue .flowMappingEnd fuel behind)
      | some .value => pairs .empty (flowValue .flowMappingEnd fuel reading)
      | _ => do
        let (key, behind) ← node false false fuel reading
        pairs key (some (.empty, behind))
    match first, reading.next with
    | false, some .flowEntry => entry reading.skip
    | false, some .flowMappingEnd => some ([], reading.skip)
    | false, _ => none
    | true, _ => entry reading

end

/-- Reads the directives in front of a document. The version is given at most once; only the last directive
counts for tags. -/
def directives (versioned : Bool) (handles : List (String × String)) :
    List Token → Option (List (String × String) × List Token)
  | .version :: rest => if versioned then none else directives true [] rest
  | .binding handle meaning :: rest => directives versioned [(handle, meaning)] rest
  | rest => some (handles, rest)

/-- Whether a document may begin at a token only with its mark or a directive. -/
def isExplicit : List Token → Bool
  | .documentStart :: _ | .version :: _ | .binding _ _ :: _ => true
  | _ => false

/-- Whether a document has no content: nothing or the next boundary follows. -/
def isBare : List Token → Bool
  | [] | .documentEnd :: _ => true
  | tokens => isExplicit tokens

/-- Reads the content of a document: its tree, and what is behind it. -/
def content? (handles : List (String × String)) (tokens : List Token) : Option (Node × List Token) := do
  let start : Reading := { tokens, handles }
  let (root, behind) ← start.node true false (3 * tokens.length + 3)
  return (root, behind.tokens)

/-- Reads a document. Behind one that has no end mark, a document begins with its mark. -/
def document (implicit : Bool) (tokens : List Token) : Option (Node × List Token) :=
  if implicit && !isExplicit tokens then content? [] tokens
  else do
    let (handles, rest) ← directives false [] tokens
    match rest with
    | .documentStart :: rest =>
      if isBare rest then return (.empty, rest) else content? handles rest
    | _ => none

/-- Reads documents. -/
def documents (fuel : Nat) (implicit : Bool) (tokens : List Token) : Option (List Node) :=
  match fuel with
  | 0 => none
  | fuel + 1 =>
    match tokens with
    | [] => some []
    | .documentEnd :: rest => documents fuel implicit rest
    | tokens => do
      let (root, behind) ← document implicit tokens
      match behind with
      | .documentEnd :: rest => return root :: (← documents fuel true rest)
      | .version :: _ | .binding _ _ :: _ => none
      | rest => return root :: (← documents fuel false rest)

end Reading

/-- The documents of a text, unless it is malformed. -/
def Node.read (text : String) : Option (List Node) := do
  let tokens ← tokensOf text
  Reading.documents (2 * tokens.length + 2) true tokens

end Dialogs.StrictYaml
