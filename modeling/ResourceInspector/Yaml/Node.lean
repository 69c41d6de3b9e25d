import ResourceInspector.Yaml.Token.Lexer
/-!
# YAML nodes

A document as a tree of scalars, sequences and mappings. Anchors and aliases are numbers in the
tree, and `Node.follow` leads from an alias to the node that it stands for.
-/

namespace ResourceInspector.Yaml

/-- What may stand in front of a node: the number of its anchor, and its tag. -/
structure Properties where
  anchor : Option Nat := none
  tag : Option String := none
deriving Repr, DecidableEq, Inhabited

def Properties.isEmpty (p : Properties) : Bool :=
  p.anchor.isNone && p.tag.isNone

inductive Node where
  | scalar (properties : Properties) (style : Style) (text : String)
  | sequence (properties : Properties) (items : List Node)
  | mapping (properties : Properties) (entries : List (Node × Node))
  | alias (number : Nat)
deriving Inhabited

namespace Node

def empty : Node :=
  .scalar {} .plain ""

/-! ## Anchors -/

/-- The numbers of the anchors met so far, by name. -/
abbrev Anchors := List (String × Nat)

/-- Meets an anchor, whose number is how many names there were. A name that comes again therefore
shares its number with the next new name. -/
def Anchors.meet (anchors : Anchors) (name : String) : Nat × Anchors :=
  (anchors.length, (name, anchors.length) :: anchors.filter (·.1 ≠ name))

mutual

/-- The nodes with an anchor, by number, in the order in which they start. -/
def anchored : Node → List (Nat × Node)
  | .scalar p style text => (p.anchor.map (·, .scalar p style text)).toList
  | .sequence p items => (p.anchor.map (·, .sequence p items)).toList ++ anchoredItems items
  | .mapping p entries => (p.anchor.map (·, .mapping p entries)).toList ++ anchoredEntries entries
  | .alias _ => []

/-- The nodes with an anchor among the items of a sequence. -/
def anchoredItems : List Node → List (Nat × Node)
  | [] => []
  | item :: items => anchored item ++ anchoredItems items

/-- The nodes with an anchor among the entries of a mapping. -/
def anchoredEntries : List (Node × Node) → List (Nat × Node)
  | [] => []
  | (key, value) :: entries => anchored key ++ anchored value ++ anchoredEntries entries

end

/-- The node that an alias stands for in the document of `root`, which is the last one to start with
its number. Any other node stands for itself. -/
def follow (root : Node) : Node → Node
  | .alias number => (root.anchored.reverse.lookup number).getD (.alias number)
  | node => node

/-! ## Tags -/

/-- What the handles of tags stand for. -/
abbrev Handles := List (String × String)

/-- The handles that need no directive. -/
def standardHandles : Handles :=
  [("!", "!"), ("!!", "tag:yaml.org,2002:")]

/-- The whole tag of a handle and what follows it. -/
def wholeTag? (handles : Handles) (handle suffix : String) : Option String :=
  if handle = "" then some suffix
  else ((handles ++ standardHandles).lookup handle).map (· ++ suffix)

/-- Reads an anchor and a tag, each at most once and in either order. -/
def properties? (handles : Handles) (anchors : Anchors) :
    List Token → Option (Properties × Anchors × List Token)
  | .anchor name :: .tag handle suffix :: rest
  | .tag handle suffix :: .anchor name :: rest => do
    let tag ← wholeTag? handles handle suffix
    let (number, anchors) := anchors.meet name
    return ({ anchor := some number, tag := some tag }, anchors, rest)
  | .anchor name :: rest =>
    let (number, anchors) := anchors.meet name
    some ({ anchor := some number }, anchors, rest)
  | .tag handle suffix :: rest => do
    return ({ tag := some (← wholeTag? handles handle suffix) }, anchors, rest)
  | rest => some ({}, anchors, rest)

/-! ## Reading nodes

Each function yields what it read, the anchors known then, and the tokens that are left. -/

/-- Where a node stands: inside a flow collection, in a block, or as a key or value of a block
mapping, where a sequence may go without indentation. -/
inductive Position where
  | flow
  | block
  | entry
deriving Repr, DecidableEq

/-- Whether a token ends an item of a block sequence that has no value. -/
def endsItem : Token → Bool
  | .blockEntry | .blockEnd => true
  | _ => false

/-- Whether a token ends a key or value of a block mapping that is not there. -/
def endsEntry : Token → Bool
  | .key | .value | .blockEnd => true
  | _ => false

/-- The tokens after the mark between two items, which only the first item goes without. -/
def afterSeparator? (isFirst : Bool) (tokens : List Token) : Option (List Token) :=
  if isFirst then some tokens
  else
    match tokens with
    | .flowEntry :: rest => some rest
    | _ => none

mutual

/-- Reads a node. At least every fourth call takes a token, so `fuel` needs to be no more than a
little over four times their number. -/
def read (fuel : Nat) (handles : Handles) (position : Position) (anchors : Anchors)
    (tokens : List Token) : Option (Node × Anchors × List Token) :=
  match fuel, tokens with
  | 0, _ => none
  | _ + 1, .alias name :: rest => do return (.alias (← anchors.lookup name), anchors, rest)
  | fuel + 1, tokens => do
    let (p, anchors, rest) ← properties? handles anchors tokens
    readContent fuel handles position anchors p rest

/-- Reads what follows the properties of a node. -/
def readContent (fuel : Nat) (handles : Handles) (position : Position) (anchors : Anchors)
    (p : Properties) (tokens : List Token) : Option (Node × Anchors × List Token) :=
  match fuel, tokens with
  | 0, _ => none
  | _ + 1, .scalar style text :: rest => some (.scalar p style text, anchors, rest)
  | fuel + 1, .flowSequenceStart :: rest => do
    let (items, anchors, rest) ← readFlowItems fuel handles true anchors rest
    return (.sequence p items, anchors, rest)
  | fuel + 1, .flowMappingStart :: rest => do
    let (entries, anchors, rest) ← readFlowEntries fuel handles true anchors rest
    return (.mapping p entries, anchors, rest)
  | fuel + 1, tokens =>
    match position, tokens with
    | .entry, .blockEntry :: _ => do
      let (items, anchors, rest) ← readLooseItems fuel handles anchors tokens
      return (.sequence p items, anchors, rest)
    | .block, .blockSequenceStart :: rest | .entry, .blockSequenceStart :: rest => do
      let (items, anchors, rest) ← readItems fuel handles anchors rest
      return (.sequence p items, anchors, rest)
    | .block, .blockMappingStart :: rest | .entry, .blockMappingStart :: rest => do
      let (entries, anchors, rest) ← readEntries fuel handles anchors rest
      return (.mapping p entries, anchors, rest)
    | _, _ => if p.isEmpty then none else some (.scalar p .plain "", anchors, tokens)

/-- Reads a node, or nothing where a token says that there is none. -/
def readUnless (fuel : Nat) (ends : Token → Bool) (handles : Handles) (position : Position)
    (anchors : Anchors) (tokens : List Token) : Option (Node × Anchors × List Token) :=
  match fuel, tokens with
  | 0, _ => none
  | _ + 1, [] => some (empty, anchors, [])
  | fuel + 1, t :: rest =>
    if ends t then some (empty, anchors, t :: rest)
    else read fuel handles position anchors (t :: rest)

/-- Reads the items of a block sequence up to its end. -/
def readItems (fuel : Nat) (handles : Handles) (anchors : Anchors) (tokens : List Token) :
    Option (List Node × Anchors × List Token) :=
  match fuel, tokens with
  | fuel + 1, .blockEntry :: rest => do
    let (item, anchors, rest) ← readUnless fuel endsItem handles .block anchors rest
    let (items, anchors, rest) ← readItems fuel handles anchors rest
    return (item :: items, anchors, rest)
  | _ + 1, .blockEnd :: rest => some ([], anchors, rest)
  | _, _ => none

/-- Reads the items of a sequence that is not indented, which has no end of its own. -/
def readLooseItems (fuel : Nat) (handles : Handles) (anchors : Anchors) (tokens : List Token) :
    Option (List Node × Anchors × List Token) :=
  match fuel, tokens with
  | fuel + 1, .blockEntry :: rest => do
    let ends := fun t => endsItem t || endsEntry t
    let (item, anchors, rest) ← readUnless fuel ends handles .block anchors rest
    let (items, anchors, rest) ← readLooseItems fuel handles anchors rest
    return (item :: items, anchors, rest)
  | _ + 1, tokens => some ([], anchors, tokens)
  | 0, _ => none

/-- Reads the entries of a block mapping up to its end. -/
def readEntries (fuel : Nat) (handles : Handles) (anchors : Anchors) (tokens : List Token) :
    Option (List (Node × Node) × Anchors × List Token) :=
  match fuel, tokens with
  | fuel + 1, .key :: rest => do
    let (key, anchors, rest) ← readUnless fuel endsEntry handles .entry anchors rest
    let (value, anchors, rest) ← match rest with
      | .value :: rest => readUnless fuel endsEntry handles .entry anchors rest
      | rest => some (empty, anchors, rest)
    let (entries, anchors, rest) ← readEntries fuel handles anchors rest
    return ((key, value) :: entries, anchors, rest)
  | _ + 1, .blockEnd :: rest => some ([], anchors, rest)
  | _, _ => none

/-- Reads the items of a flow sequence up to its end. A pair among them is a mapping of its own. -/
def readFlowItems (fuel : Nat) (handles : Handles) (isFirst : Bool) (anchors : Anchors)
    (tokens : List Token) : Option (List Node × Anchors × List Token) :=
  match fuel, tokens with
  | 0, _ => none
  | _ + 1, .flowSequenceEnd :: rest => some ([], anchors, rest)
  | fuel + 1, tokens => do
    let tokens ← afterSeparator? isFirst tokens
    let ends := fun t => t matches .flowEntry || t matches .flowSequenceEnd
    match tokens with
    | .flowSequenceEnd :: rest => return ([], anchors, rest)
    | .key :: rest =>
      let (key, anchors, rest) ← match rest with
        | t :: after =>
          if ends t || t matches .value then some (empty, anchors, after)
          else read fuel handles .flow anchors rest
        | [] => none
      let (value, anchors, rest) ← match rest with
        | .value :: rest => readUnless fuel ends handles .flow anchors rest
        | rest => some (empty, anchors, rest)
      let (items, anchors, rest) ← readFlowItems fuel handles false anchors rest
      return (.mapping {} [(key, value)] :: items, anchors, rest)
    | tokens =>
      let (item, anchors, rest) ← read fuel handles .flow anchors tokens
      let (items, anchors, rest) ← readFlowItems fuel handles false anchors rest
      return (item :: items, anchors, rest)

/-- Reads the entries of a flow mapping up to its end. -/
def readFlowEntries (fuel : Nat) (handles : Handles) (isFirst : Bool) (anchors : Anchors)
    (tokens : List Token) : Option (List (Node × Node) × Anchors × List Token) :=
  match fuel, tokens with
  | 0, _ => none
  | _ + 1, .flowMappingEnd :: rest => some ([], anchors, rest)
  | fuel + 1, tokens => do
    let tokens ← afterSeparator? isFirst tokens
    let ends := fun t => t matches .flowEntry || t matches .flowMappingEnd
    match tokens with
    | .flowMappingEnd :: rest => return ([], anchors, rest)
    | .key :: rest =>
      let (key, anchors, rest) ←
        readUnless fuel (fun t => ends t || t matches .value) handles .flow anchors rest
      let (value, anchors, rest) ← match rest with
        | .value :: rest => readUnless fuel ends handles .flow anchors rest
        | rest => some (empty, anchors, rest)
      let (entries, anchors, rest) ← readFlowEntries fuel handles false anchors rest
      return ((key, value) :: entries, anchors, rest)
    | tokens =>
      let (key, anchors, rest) ← read fuel handles .flow anchors tokens
      let (entries, anchors, rest) ← readFlowEntries fuel handles false anchors rest
      return ((key, empty) :: entries, anchors, rest)

end

/-! ## Documents -/

/-- Reads the directives in front of a document. There is at most one for the version, which has to
be 1.1 or 1.2, and at most one for each handle. -/
def directives? (version : Bool) (handles : Handles) :
    List Token → Option (Handles × List Token)
  | .versionDirective major minor :: rest =>
    if version || major ≠ 1 || !(minor = 1 || minor = 2) then none
    else directives? true handles rest
  | .tagDirective handle start :: rest =>
    if (handles.lookup handle).isSome then none
    else directives? version ((handle, start) :: handles) rest
  | rest => some (handles, rest)

def betweenDocuments : Token → Bool
  | .versionDirective .. | .tagDirective .. | .documentStart | .documentEnd => true
  | _ => false

/-- Reads the node of a document, and the mark of its end if there is one. -/
def readDocument (handles : Handles) (tokens : List Token) : Option (Node × List Token) := do
  let fuel := 4 * tokens.length + 4
  let (node, _, rest) ← readUnless fuel betweenDocuments handles .block [] tokens
  return (node, match rest with
    | .documentEnd :: rest => rest
    | rest => rest)

/-- Reads documents that start with a mark, each of which takes at least one token. -/
def readMarked (fuel : Nat) (tokens : List Token) : Option (List Node) :=
  match fuel, tokens.dropWhile (· matches .documentEnd) with
  | _, [] => some []
  | 0, _ => none
  | fuel + 1, tokens => do
    match ← directives? false [] tokens with
    | (handles, .documentStart :: rest) =>
      let (node, rest) ← readDocument handles rest
      return node :: (← readMarked fuel rest)
    | _ => none

/-- Reads documents. Only the first one may go without a mark, and it needs one if it has
directives. -/
def ofTokens? (tokens : List Token) : Option (List Node) :=
  match tokens with
  | [] => some []
  | .versionDirective .. :: _ | .tagDirective .. :: _ | .documentStart :: _ =>
    readMarked tokens.length tokens
  | tokens => do
    if tokens.head?.any (· matches .documentEnd) then none
    let (node, rest) ← readDocument [] tokens
    return node :: (← readMarked rest.length rest)

def parse? (s : String) : Option (List Node) := do
  ofTokens? (← Token.scan? s)

end Node

end ResourceInspector.Yaml
