/-!
# Regular expressions

The syntax of regular expressions, and which of them an automaton can be built for. Here an expression is
never matched. An automaton works without tables of characters, so what needs them cannot be built: the
classes of digits, blanks and word characters beyond ASCII, properties of characters, and letters of either
case. These are allowed where an expression speaks of ASCII only; but there it may not match parts of
other characters.
-/

namespace Dialogs

/-- Why there is no automaton for an expression. -/
inductive RegexFault where
  | unbuildable
  /-- The bound of a word, of whatever alphabet. -/
  | wordBoundary
  deriving DecidableEq, Repr

/-- The wording of a fault. -/
def RegexFault.message : RegexFault → String
  | .unbuildable => "error building NFA"
  | .wordBoundary =>
    "unsupported regex feature for DFAs: cannot build DFAs for regexes with Unicode word " ++
      "boundaries; switch to ASCII word boundaries, or heuristically enable Unicode word boundaries " ++
      "or use a different regex engine"

namespace Regex

/-- What a letter in a group of flags turns on or off. -/
inductive Flag where
  | caseless
  | multiline
  | dotAll
  | lazy
  | wide
  | carriageReturns
  | spaced
  deriving DecidableEq, Repr

/-- Flags, with whether they are turned on. -/
abbrev Flags := List (Flag × Bool)

/-- What some flags say about one, unless they leave it as it was. -/
def Flags.apply (flags : Flags) (flag : Flag) (before : Bool) : Bool :=
  ((flags.find? fun (other, _) => other = flag).map Prod.snd).getD before

/-- A character, which may be written as a byte. -/
structure Literal where
  character : Char
  asByte : Bool := false
  deriving DecidableEq, Repr

/-- How two sets of characters are combined. -/
inductive Combination where
  | intersection
  | difference
  | symmetricDifference
  deriving DecidableEq, Repr

/-- A set of characters in brackets. -/
inductive CharSet where
  | literal (literal : Literal)
  | range (first last : Literal)
  /-- A class of ASCII that has a name. -/
  | ascii (negated : Bool)
  /-- The digits, the blanks or the characters of words. -/
  | common (negated : Bool)
  /-- The characters with a property. -/
  | property
  | union (parts : List CharSet)
  | combined (how : Combination) (left right : CharSet)
  | bracketed (negated : Bool) (inner : CharSet)
  deriving Repr

end Regex

/-- A regular expression. -/
inductive Regex where
  | empty
  /-- Flags for what follows in the same group. -/
  | flags (flags : Regex.Flags)
  | literal (literal : Regex.Literal)
  | dot
  /-- The start or the end of a line or of the text. -/
  | anchor
  | wordBoundary
  | common (negated : Bool)
  | property
  | charSet (set : Regex.CharSet)
  | repeated (inner : Regex)
  | group (flags : Regex.Flags) (inner : Regex)
  | sequence (parts : List Regex)
  | alternatives (branches : List Regex)
  deriving Repr

namespace Regex

/-- The union of some sets. That of a single set is the set. -/
def CharSet.ofParts : List CharSet → CharSet
  | [part] => part
  | parts => .union parts

/-- The sequence of some expressions. That of a single one is the expression. -/
def ofParts : List Regex → Regex
  | [] => .empty
  | [part] => part
  | parts => .sequence parts

/-- The choice between some expressions. That of a single one is the expression. -/
def ofBranches : List Regex → Regex
  | [branch] => branch
  | branches => .alternatives branches

mutual

/-- How deep the parts of a set are nested. -/
def CharSet.depth : CharSet → Nat
  | .literal _ | .range _ _ | .ascii _ | .common _ | .property => 0
  | .union [] => 0
  | .union parts => depthOfSets parts + 1
  | .combined _ left right => max left.depth right.depth + 1
  | .bracketed _ inner => inner.depth + 1

/-- How deep the deepest of some sets is nested. -/
def depthOfSets : List CharSet → Nat
  | [] => 0
  | part :: rest => max part.depth (depthOfSets rest)

end

mutual

/-- How deep the parts of an expression are nested. -/
def depth : Regex → Nat
  | .empty | .flags _ | .literal _ | .dot | .anchor | .wordBoundary | .common _ | .property => 0
  | .charSet set => set.depth
  | .repeated inner | .group _ inner => inner.depth + 1
  | .sequence parts | .alternatives parts => depthOfParts parts + 1

/-- How deep the deepest of some expressions is nested. -/
def depthOfParts : List Regex → Nat
  | [] => 0
  | part :: rest => max part.depth (depthOfParts rest)

end

/-- How deep an expression may be nested. -/
def nestingLimit : Nat := 250

/-- How characters are taken: in either case or as they are, and of all alphabets or of ASCII only. -/
structure Mode where
  caseless : Bool := false
  wide : Bool := true
  deriving DecidableEq, Repr

/-- The mode behind some flags. -/
def Mode.behind (mode : Mode) (flags : Flags) : Mode :=
  ⟨flags.apply .caseless mode.caseless, flags.apply .wide mode.wide⟩

/-- Whether a character is one of ASCII. -/
def Literal.isPlain (literal : Literal) : Bool := literal.character.toNat < 128

mutual

/-- Whether a set of bytes holds any beyond ASCII, if the set can be built. -/
def CharSet.reach? : CharSet → Option Bool
  | .literal given => if given.isPlain then some false else none
  | .range first last => if first.isPlain && last.isPlain then some false else none
  | .ascii negated => some negated
  | .common negated => if negated then none else some false
  | .property => none
  | .union parts => reachOfSets? parts
  | .combined how left right => do
    let left ← left.reach?
    let right ← right.reach?
    match how with
    | .intersection => return left && right
    | .difference => return left && !right
    | .symmetricDifference => return left != right
  | .bracketed negated inner => do
    if (← inner.reach?) != negated then none else some false

/-- Whether any of some sets of bytes holds bytes beyond ASCII, if the sets can be built. -/
def reachOfSets? : List CharSet → Option Bool
  | [] => some false
  | part :: rest => do return (← part.reach?) || (← reachOfSets? rest)

end

mutual

/-- Whether a set of characters needs no tables. -/
def CharSet.isTableFree : CharSet → Bool
  | .literal _ | .range _ _ | .ascii _ => true
  | .common _ | .property => false
  | .union parts => areTableFree parts
  | .combined _ left right => left.isTableFree && right.isTableFree
  | .bracketed _ inner => inner.isTableFree

/-- Whether none of some sets of characters needs tables. -/
def areTableFree : List CharSet → Bool
  | [] => true
  | part :: rest => part.isTableFree && areTableFree rest

end

/-- Whether a set of characters can be built. -/
def CharSet.isBuildable (mode : Mode) (set : CharSet) : Bool :=
  if mode.wide then !mode.caseless && set.isTableFree else set.reach?.isSome

/-- Whether a character can be built outside of brackets. -/
def Literal.isBuildable (mode : Mode) (literal : Literal) : Bool :=
  if mode.wide then !mode.caseless else literal.isPlain || !literal.asByte

mutual

/-- Checks that an expression can be built, and gives the mode behind it, and whether it holds the bound of a
word of all alphabets. -/
def walk (mode : Mode) : Regex → Option (Mode × Bool)
  | .empty | .anchor => some (mode, false)
  | .flags changes => some (mode.behind changes, false)
  | .literal given => if given.isBuildable mode then some (mode, false) else none
  | .dot => if mode.wide then some (mode, false) else none
  | .wordBoundary => some (mode, mode.wide)
  | .common negated => if mode.wide || negated then none else some (mode, false)
  | .property => none
  | .charSet set => if set.isBuildable mode then some (mode, false) else none
  | .repeated inner => inner.walk mode
  | .group changes inner => do
    let (_, found) ← inner.walk (mode.behind changes)
    return (mode, found)
  | .sequence parts | .alternatives parts => walkParts mode parts

/-- Checks that some expressions can be built one behind the other. -/
def walkParts (mode : Mode) : List Regex → Option (Mode × Bool)
  | [] => some (mode, false)
  | part :: rest => do
    let (mode, found) ← part.walk mode
    let (mode, foundLater) ← walkParts mode rest
    return (mode, found || foundLater)

end

/-- Checks that there is an automaton for an expression. -/
def check (regex : Regex) : Except RegexFault Unit :=
  if nestingLimit < regex.depth then .error .unbuildable
  else match regex.walk {} with
    | none => .error .unbuildable
    | some (_, true) => .error .wordBoundary
    | some (_, false) => .ok ()

end Regex

end Dialogs
