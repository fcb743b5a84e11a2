/-
  YAML TREES: from the tokens of a document to its node.

  A node may have properties in front, an anchor and a tag in either order.  Where a node may be
  left out, an empty one stands.  A collection is a block, whose end is a token of its own, or
  stands in brackets or braces; the items of a sequence that is the value of a key need no block.

  An alias denotes the node with its name that was named last.  A node that is not finished yet has
  no value to give, and an alias inside of it is a bad node.

  `documents?` takes all tokens of a text; of documents there may be one or none.  The readers that
  call each other spend one unit of fuel a call; of three calls in a row one takes a token.
-/
import StaticSite.Config.Yaml.Node
import StaticSite.Config.Yaml.Token

namespace StaticSite.Config.Yaml

/-! ## Names -/

/-- What the handles of tags stand for, and the nodes that have been named. -/
structure Names where
  handles : List (String × String)
  /-- The names given, with the number of each; the last one comes first. -/
  anchors : List (String × Nat)
  /-- The finished nodes, by their numbers. -/
  nodes : List (Nat × Node)

namespace Names

/-- The next node gets a name: its number. -/
def register (names : Names) (name : String) : Nat × Names :=
  let number := names.anchors.length
  (number, { names with anchors := (name, number) :: names.anchors })

/-- A node with a number is finished. -/
def finish (names : Names) (number : Option Nat) (node : Node) : Names :=
  match number with
  | some number => { names with nodes := (number, node) :: names.nodes }
  | none => names

/-- The node that an alias denotes, if its name has been given. -/
def node? (names : Names) (name : String) : Option Node :=
  (names.anchors.lookup name).map fun number => (names.nodes.lookup number).getD .bad

/-- The tag that a handle and a suffix make up: what the handle stands for, and the suffix.  A
    handle between two marks has to stand for something. -/
def tag? (names : Names) (handle suffix : String) : Option (String × String) :=
  match names.handles.lookup handle with
  | some start => some (start, suffix)
  | none =>
    if handle = "!!" then some (coreTags, suffix)
    else if handle = "!" ∨ handle = "" then some (handle, suffix)
    else none

end Names

/-! ## Properties -/

/-- The properties of a node: the number of its name, and its tag. -/
structure Properties where
  number : Option Nat
  tag : Option (String × String)

/-- Whether there are any. -/
def Properties.any (p : Properties) : Bool := p.number.isSome || p.tag.isSome

/-- Reads the properties in front of a node, at most one of each kind. -/
def readProperties (names : Names) : List Token → Option (Properties × Names × List Token)
  | .anchor name :: .tag handle suffix :: rest =>
    let (number, names) := names.register name
    (names.tag? handle suffix).map fun tag => (⟨some number, some tag⟩, names, rest)
  | .anchor name :: rest =>
    let (number, names) := names.register name
    some (⟨some number, none⟩, names, rest)
  | .tag handle suffix :: .anchor name :: rest =>
    let (number, names) := names.register name
    (names.tag? handle suffix).map fun tag => (⟨some number, some tag⟩, names, rest)
  | .tag handle suffix :: rest =>
    (names.tag? handle suffix).map fun tag => (⟨none, some tag⟩, names, rest)
  | rest => some (⟨none, none⟩, names, rest)

/-! ## Nodes -/

/-- A node that has been read, and what is left. -/
abbrev Read := Option (Node × Names × List Token)

/-- Where a node may stand. -/
structure Context where
  /-- Whether it may be a block of lines. -/
  inBlock : Bool
  /-- Whether it may be a sequence without a block of its own. -/
  isValue : Bool
deriving DecidableEq, Repr

/-- The places of nodes: inside brackets and braces, as items of a block, and as keys and values
    of one. -/
def Context.flow : Context := ⟨false, false⟩
def Context.item : Context := ⟨true, false⟩
def Context.entry : Context := ⟨true, true⟩

mutual

/-- Reads a node. -/
def readNode : Nat → Context → Names → List Token → Read
  | 0, _, _, _ => none
  | fuel + 1, context, names, tokens =>
    match tokens with
    | .alias name :: rest => (names.node? name).map fun node => (node, names, rest)
    | tokens =>
      match readProperties names tokens with
      | none => none
      | some (properties, names, tokens) =>
        match readContent fuel context properties names tokens with
        | none => none
        | some (node, names, rest) => some (node, names.finish properties.number node, rest)

/-- Reads what a node holds, behind its properties. -/
def readContent : Nat → Context → Properties → Names → List Token → Read
  | 0, _, _, _, _ => none
  | fuel + 1, context, properties, names, tokens =>
    let empty : Read :=
      if properties.any then some (.ofText true properties.tag "", names, tokens) else none
    match tokens with
    | .scalar isPlain text :: rest => some (.ofText isPlain properties.tag text, names, rest)
    | .flowSequenceStart :: rest => readFlowItems fuel true [] names rest
    | .flowMappingStart :: rest => readFlowEntries fuel true [] names rest
    | .blockEntry :: _ => if context.isValue then readLooseItems fuel [] names tokens else empty
    | .blockSequenceStart :: rest =>
      if context.inBlock then readItems fuel [] names rest else empty
    | .blockMappingStart :: rest =>
      if context.inBlock then readEntries fuel [] names rest else empty
    | _ => empty

/-- Reads a node that may be left out in front of some tokens. -/
def readPart : Nat → List Token → Context → Names → List Token → Read
  | 0, _, _, _, _ => none
  | fuel + 1, ends, context, names, tokens =>
    if tokens.head?.any ends.contains then some (.null, names, tokens)
    else readNode fuel context names tokens

/-- Reads the items of a sequence without a block, up to something else. -/
def readLooseItems : Nat → List Node → Names → List Token → Read
  | 0, _, _, _ => none
  | fuel + 1, done, names, tokens =>
    match tokens with
    | .blockEntry :: rest =>
      match readPart fuel [.blockEntry, .key, .value, .blockEnd] .item names rest with
      | none => none
      | some (item, names, rest) => readLooseItems fuel (item :: done) names rest
    | rest => some (.sequence done.reverse, names, rest)

/-- Reads the items of a block, up to its end. -/
def readItems : Nat → List Node → Names → List Token → Read
  | 0, _, _, _ => none
  | fuel + 1, done, names, tokens =>
    match tokens with
    | .blockEnd :: rest => some (.sequence done.reverse, names, rest)
    | .blockEntry :: rest =>
      match readPart fuel [.blockEntry, .blockEnd] .item names rest with
      | none => none
      | some (item, names, rest) => readItems fuel (item :: done) names rest
    | _ => none

/-- Reads the keys and values of a block, up to its end; `done` holds them, last one first. -/
def readEntries : Nat → List Node → Names → List Token → Read
  | 0, _, _, _ => none
  | fuel + 1, done, names, tokens =>
    let ends : List Token := [.key, .value, .blockEnd]
    match tokens with
    | .blockEnd :: rest => (Node.ofParts? done.reverse).map fun node => (node, names, rest)
    | .value :: rest =>
      match readPart fuel ends .entry names rest with
      | none => none
      | some (value, names, rest) => readEntries fuel (value :: .null :: done) names rest
    | .key :: rest =>
      match readPart fuel ends .entry names rest with
      | none => none
      | some (key, names, .value :: rest) =>
        match readPart fuel ends .entry names rest with
        | none => none
        | some (value, names, rest) => readEntries fuel (value :: key :: done) names rest
      | some (key, names, rest) => readEntries fuel (.null :: key :: done) names rest
    | _ => none

/-- Reads the items in brackets, up to the closing one. -/
def readFlowItems : Nat → Bool → List Node → Names → List Token → Read
  | 0, _, _, _, _ => none
  | fuel + 1, isFirst, done, names, tokens =>
    let behind := match tokens with
      | .flowEntry :: rest => if isFirst then some tokens else some rest
      | .flowSequenceEnd :: _ => some tokens
      | _ => if isFirst then some tokens else none
    match behind with
    | none => none
    | some (.flowSequenceEnd :: rest) => some (.sequence done.reverse, names, rest)
    | some (.key :: rest) =>
      match readFlowPair fuel names rest with
      | none => none
      | some (item, names, rest) => readFlowItems fuel false (item :: done) names rest
    | some tokens =>
      match readNode fuel .flow names tokens with
      | none => none
      | some (item, names, rest) => readFlowItems fuel false (item :: done) names rest

/-- Reads a key and its value without braces.  A mark in place of the key is passed over. -/
def readFlowPair : Nat → Names → List Token → Read
  | 0, _, _ => none
  | fuel + 1, names, tokens =>
    let marks : List Token := [.value, .flowEntry, .flowSequenceEnd]
    let key := if tokens.head?.any marks.contains then some (.null, names, tokens.drop 1)
      else readNode fuel .flow names tokens
    match key with
    | none => none
    | some (key, names, .value :: rest) =>
      match readPart fuel [.flowEntry, .flowSequenceEnd] .flow names rest with
      | none => none
      | some (value, names, rest) =>
        (Node.ofParts? [key, value]).map fun node => (node, names, rest)
    | some (key, names, rest) => (Node.ofParts? [key, .null]).map fun node => (node, names, rest)

/-- Reads the keys and values in braces, up to the closing one; `done` holds them, last one
    first. -/
def readFlowEntries : Nat → Bool → List Node → Names → List Token → Read
  | 0, _, _, _, _ => none
  | fuel + 1, isFirst, done, names, tokens =>
    let behind := match tokens with
      | .flowEntry :: rest => if isFirst then some tokens else some rest
      | .flowMappingEnd :: _ => some tokens
      | _ => if isFirst then some tokens else none
    match behind with
    | none => none
    | some (.flowMappingEnd :: rest) =>
      (Node.ofParts? done.reverse).map fun node => (node, names, rest)
    | some (.value :: rest) =>
      match readPart fuel [.flowEntry, .flowMappingEnd] .flow names rest with
      | none => none
      | some (value, names, rest) => readFlowEntries fuel false (value :: .null :: done) names rest
    | some (.key :: rest) =>
      match readPart fuel [.value, .flowEntry, .flowMappingEnd] .flow names rest with
      | none => none
      | some (key, names, .value :: rest) =>
        match readPart fuel [.flowEntry, .flowMappingEnd] .flow names rest with
        | none => none
        | some (value, names, rest) => readFlowEntries fuel false (value :: key :: done) names rest
      | some (key, names, rest) => readFlowEntries fuel false (.null :: key :: done) names rest
    | some tokens =>
      match readNode fuel .flow names tokens with
      | none => none
      | some (key, names, rest) => readFlowEntries fuel false (.null :: key :: done) names rest

end

/-! ## Documents -/

/-- Reads the directives in front of a document: what the last of them makes a handle stand for.
    Only one may be about the version. -/
def readDirectives (sawVersion : Bool) (handles : List (String × String)) :
    List Token → Option (List (String × String) × List Token)
  | .versionDirective :: rest => if sawVersion then none else readDirectives true [] rest
  | .tagDirective handle start :: rest => readDirectives sawVersion [(handle, start)] rest
  | rest => some (handles, rest)

/-- Reads the node of a document that begins with its mark. -/
def readMarkedDocument (fuel : Nat) (names : Names) : List Token → Read
  | .documentStart :: rest =>
    match rest with
    | .versionDirective :: _ | .tagDirective _ _ :: _ | .documentStart :: _ | .documentEnd :: _
    | .streamEnd :: _ => some (.null, names, rest)
    | rest => readNode fuel .item names rest
  | _ => none

/-- Drops marks of the ends of documents. -/
def dropEnds (tokens : List Token) : List Token :=
  tokens.dropWhile fun token => decide (token = .documentEnd)

/-- The node of the one document that tokens make up, or none if there is no document. -/
def document? (tokens : List Token) : Option (Option Node) :=
  let fuel := 3 * tokens.length + 3
  match dropEnds tokens with
  | .streamEnd :: _ => some none
  | tokens =>
    match readDirectives false [] tokens with
    | none => none
    | some (handles, behind) =>
      let names : Names := ⟨handles, [], []⟩
      let isMarked := match tokens with
        | .versionDirective :: _ | .tagDirective _ _ :: _ | .documentStart :: _ => true
        | _ => false
      let read := if isMarked then readMarkedDocument fuel names behind
        else readNode fuel .item names tokens
      match read with
      | none => none
      | some (node, _, rest) => if dropEnds rest = [.streamEnd] then some (some node) else none

end StaticSite.Config.Yaml
