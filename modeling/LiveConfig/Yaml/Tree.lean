import LiveConfig.Yaml.Token

/-!
# Structure of a YAML document

`Tree.ofTokens?` arranges tokens into the tree of one document. Tags are written out in full, and
each alias is replaced by the number of the anchor it names. The trees that anchors stand for are
collected beside the document.

An anchor's number is the count of different names seen before it, so names that are used again
can make two anchors share a number; the later one then counts for all their aliases.
-/

namespace LiveConfig.Yaml

/-- A document before scalars and aliases are resolved. -/
inductive Tree where
  | scalar (tag : Option (List Char)) (text : List Char) (isPlain : Bool)
  | sequence (tag : Option (List Char)) (items : List Tree)
  | mapping (tag : Option (List Char)) (entries : List (Tree × Tree))
  | alias (anchor : Nat)

/-- The anchors of a document so far. -/
structure Anchors where
  /-- The number that each name refers to, the latest first. -/
  numbers : List (List Char × Nat) := []
  /-- The places of anchors in the order of the text, with their numbers, the latest first. -/
  places : List (Nat × Nat) := []
  /-- The trees at those places. -/
  trees : List (Nat × Tree) := []

namespace Anchors

/-- Registers a name at the start of its tree; gives its place. -/
def register (a : Anchors) (name : List Char) : Anchors × Nat :=
  let number := (a.numbers.map Prod.fst).eraseDups.length
  let place := a.places.length
  ({ a with numbers := (name, number) :: a.numbers, places := (number, place) :: a.places }, place)

/-- Records the tree at a place. -/
def record (a : Anchors) (place : Nat) (tree : Tree) : Anchors :=
  { a with trees := (place, tree) :: a.trees }

/-- The number that a name refers to. -/
def number? (a : Anchors) (name : List Char) : Option Nat :=
  List.lookup name a.numbers

/-- The tree that a number stands for. -/
def tree? (a : Anchors) (number : Nat) : Option Tree :=
  (List.lookup number a.places).bind fun place => List.lookup place a.trees

end Anchors

/-- What is left of the tokens, the anchors so far, and the meaning of tag handles. -/
structure Builder where
  tokens : List Token
  anchors : Anchors := {}
  handles : List (List Char × List Char) := []

namespace Builder

/-- A step that builds a part of a tree, or fails. -/
abbrev Step := StateT Builder Option

/-- The next token. -/
def peek : Step (Option Token) := do
  return (← get).tokens.head?

/-- Moves over the next token. -/
def skip : Step Unit :=
  modify fun b => { b with tokens := b.tokens.tail }

/-- A node without content. -/
def emptyScalar : Tree :=
  .scalar none [] true

/-- The anchor and the tag in front of a node, in either order. -/
def properties : Step (Option (List Char) × Option (List Char × List Char)) := do
  match ← peek with
  | some (.anchor name) =>
    skip
    match ← peek with
    | some (.tag handle suffix) => skip; return (some name, some (handle, suffix))
    | _ => return (some name, none)
  | some (.tag handle suffix) =>
    skip
    match ← peek with
    | some (.anchor name) => skip; return (some name, some (handle, suffix))
    | _ => return (none, some (handle, suffix))
  | _ => return (none, none)

/-- A tag in full; its handle must have a meaning. -/
def fullTag (tag : List Char × List Char) : Step (List Char) := do
  let (handle, suffix) := tag
  if handle.isEmpty then return suffix
  else match List.lookup handle (← get).handles with
    | some meaning => return meaning ++ suffix
    | none => failure

/-- The tokens that may follow the mark of an entry or a key that has no node of its own. -/
def endsBlockItem (endsAtKeys : Bool) : Option Token → Bool
  | some .blockEntry => true
  | some .key => endsAtKeys
  | some .value => endsAtKeys
  | some .blockEnd => true
  | _ => false

/-- The tokens that may follow the mark of a block mapping's key or value without a node. -/
def endsBlockPair : Option Token → Bool
  | some .key => true
  | some .value => true
  | some .blockEnd => true
  | _ => false

mutual

/-- A node. Block collections are possible only in the block context, and sequences without
indentation of their own only as parts of block mappings. -/
def node (fuel : Nat) (block indentless : Bool) : Step Tree :=
  match fuel with
  | 0 => failure
  | fuel + 1 => do
    match ← peek with
    | some (.alias name) =>
      skip
      match (← get).anchors.number? name with
      | some n => return .alias n
      | none => failure
    | _ =>
      let (anchor?, parts?) ← properties
      let tag? ← match parts? with
        | some parts => some <$> fullTag parts
        | none => pure none
      let place? ← match anchor? with
        | some name =>
          let (anchors, place) := (← get).anchors.register name
          modify fun b => { b with anchors := anchors }
          pure (some place)
        | none => pure none
      let tree ← content fuel block indentless (anchor?.isSome || tag?.isSome) tag?
      match place? with
      | some place =>
        modify fun b => { b with anchors := b.anchors.record place tree }
        return tree
      | none => return tree

/-- A node after its properties. -/
def content (fuel : Nat) (block indentless hasProperties : Bool) (tag? : Option (List Char)) :
    Step Tree :=
  match fuel with
  | 0 => failure
  | fuel + 1 => do
    match ← peek with
    | some (.scalar text isPlain) =>
      skip
      return .scalar (tag?.filter (· ≠ ['!'])) text isPlain
    | some .flowSequenceStart => skip; return .sequence tag? (← flowItems fuel true)
    | some .flowMappingStart => skip; return .mapping tag? (← flowEntries fuel true)
    | some .blockSequenceStart =>
      if block then skip; return .sequence tag? (← blockItems fuel) else empty
    | some .blockMappingStart =>
      if block then skip; return .mapping tag? (← blockEntries fuel) else empty
    | some .blockEntry =>
      if indentless then return .sequence tag? (← indentlessItems fuel) else empty
    | _ => empty
where
  /-- A node of which only the properties are written. -/
  empty : Step Tree := if hasProperties then return .scalar tag? [] true else failure

/-- The items of a block sequence, up to its end. -/
def blockItems (fuel : Nat) : Step (List Tree) :=
  match fuel with
  | 0 => failure
  | fuel + 1 => do
    match ← peek with
    | some .blockEntry =>
      skip
      let item ← if endsBlockItem false (← peek) then pure emptyScalar else node fuel true false
      return item :: (← blockItems fuel)
    | some .blockEnd => skip; return []
    | _ => failure

/-- The items of a sequence that is not indented against its mapping. -/
def indentlessItems (fuel : Nat) : Step (List Tree) :=
  match fuel with
  | 0 => failure
  | fuel + 1 => do
    match ← peek with
    | some .blockEntry =>
      skip
      let item ← if endsBlockItem true (← peek) then pure emptyScalar else node fuel true false
      return item :: (← indentlessItems fuel)
    | _ => return []

/-- The entries of a block mapping, up to its end. -/
def blockEntries (fuel : Nat) : Step (List (Tree × Tree)) :=
  match fuel with
  | 0 => failure
  | fuel + 1 => do
    match ← peek with
    | some .key =>
      skip
      let key ← if endsBlockPair (← peek) then pure emptyScalar else node fuel true true
      let value ← match ← peek with
        | some .value =>
          skip
          if endsBlockPair (← peek) then pure emptyScalar else node fuel true true
        | _ => pure emptyScalar
      return (key, value) :: (← blockEntries fuel)
    | some .blockEnd => skip; return []
    | _ => failure

/-- The items of a flow sequence, up to its closing bracket. An item with a colon is a mapping of
one entry. -/
def flowItems (fuel : Nat) (isFirst : Bool) : Step (List Tree) :=
  match fuel with
  | 0 => failure
  | fuel + 1 => do
    if (← peek) = some .flowSequenceEnd then
      skip
      return []
    else
      if !isFirst then
        if (← peek) = some .flowEntry then skip else failure
      match ← peek with
      | some .flowSequenceEnd => skip; return []
      | some .key =>
        skip
        let entry ← flowPair fuel
        return .mapping none [entry] :: (← flowItems fuel false)
      | _ =>
        let item ← node fuel false false
        return item :: (← flowItems fuel false)

/-- The entry of a mapping that stands for an item of a flow sequence. Where the key is missing,
the token in its place is passed over. -/
def flowPair (fuel : Nat) : Step (Tree × Tree) :=
  match fuel with
  | 0 => failure
  | fuel + 1 => do
    let key ← match ← peek with
      | some .value => skip; pure emptyScalar
      | some .flowEntry => skip; pure emptyScalar
      | some .flowSequenceEnd => skip; pure emptyScalar
      | _ => node fuel false false
    match ← peek with
    | some .value =>
      skip
      match ← peek with
      | some .flowEntry => return (key, emptyScalar)
      | some .flowSequenceEnd => return (key, emptyScalar)
      | _ => return (key, ← node fuel false false)
    | _ => return (key, emptyScalar)

/-- The entries of a flow mapping, up to its closing brace. -/
def flowEntries (fuel : Nat) (isFirst : Bool) : Step (List (Tree × Tree)) :=
  match fuel with
  | 0 => failure
  | fuel + 1 => do
    if (← peek) = some .flowMappingEnd then
      skip
      return []
    else
      if !isFirst then
        if (← peek) = some .flowEntry then skip else failure
      match ← peek with
      | some .flowMappingEnd => skip; return []
      | some .key =>
        skip
        let key ← match ← peek with
          | some .value => pure emptyScalar
          | some .flowEntry => pure emptyScalar
          | some .flowMappingEnd => pure emptyScalar
          | _ => node fuel false false
        let value ← match ← peek with
          | some .value =>
            skip
            match ← peek with
            | some .flowEntry => pure emptyScalar
            | some .flowMappingEnd => pure emptyScalar
            | _ => node fuel false false
          | _ => pure emptyScalar
        return (key, value) :: (← flowEntries fuel false)
      | _ =>
        let key ← node fuel false false
        return (key, emptyScalar) :: (← flowEntries fuel false)

end

/-- The handles that every document knows. -/
def commonHandles : List (List Char × List Char) :=
  [(['!'], ['!']), (['!', '!'], "tag:yaml.org,2002:".toList)]

/-- The directives in front of a document. There is at most one version, which is 1.1 or 1.2, and
no handle is given two meanings. -/
def directives (fuel : Nat) (hasVersion : Bool) : Step Unit :=
  match fuel with
  | 0 => failure
  | fuel + 1 => do
    match ← peek with
    | some (.version major minor) =>
      if hasVersion || major != 1 || (minor != 1 && minor != 2) then failure
      else
        skip
        directives fuel true
    | some (.handle name meaning) =>
      if (List.lookup name (← get).handles).isSome then failure
      else
        skip
        modify fun b => { b with handles := (name, meaning) :: b.handles }
        directives fuel hasVersion
    | _ => return ()

/-- The tokens at which a document without content ends. -/
def endsDocument : Option Token → Bool
  | none => true
  | some (.version _ _) => true
  | some (.handle _ _) => true
  | some .documentStart => true
  | some .documentEnd => true
  | _ => false

/-- The only document of a text; `none` inside if the text holds no document at all. -/
def document (fuel : Nat) : Step (Option Tree) := do
  let useCommon : Step Unit := modify fun b => { b with handles := b.handles ++ commonHandles }
  let explicit : Step Tree := do
    directives fuel false
    useCommon
    if (← peek) = some .documentStart then
      skip
      if endsDocument (← peek) then return emptyScalar else node fuel true false
    else failure
  match ← peek with
  | none => return none
  | some (.version _ _) => some <$> explicit
  | some (.handle _ _) => some <$> explicit
  | some .documentStart => some <$> explicit
  | _ =>
    useCommon
    some <$> node fuel true false

/-- Moves over the marks behind the document; nothing may follow them. -/
def theEnd (tokens : List Token) : Bool :=
  (tokens.dropWhile (· == .documentEnd)).isEmpty

end Builder

/-- The tree of the only document that the tokens hold, with its anchors. The tree is missing if
there is no document. -/
def Tree.ofTokens? (tokens : List Token) : Option (Option Tree × Anchors) := do
  let (tree?, b) ← (Builder.document (4 * tokens.length + 4)).run { tokens := tokens }
  if Builder.theEnd b.tokens then some (tree?, b.anchors) else none

end LiveConfig.Yaml
