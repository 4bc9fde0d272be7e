import IssueMerge.Yaml.Token

/-!
The nodes of a YAML document, read from its tokens. What is left out, such as the value of a key
without one, is an empty plain scalar.
-/

namespace IssueMerge

namespace Yaml

/-- A node; a tag that is given says what kind of value it is. -/
inductive Node where
  | scalar (tag : Option Text) (plain : Bool) (text : Text)
  | sequence (tag : Option Text) (items : List Node)
  | mapping (tag : Option Text) (pairs : List (Node × Node))

def Node.empty : Node :=
  .scalar none true []

/-- Nodes that were given names. -/
abbrev Anchors := List (Text × Node)

/-- What reading a node leaves: the named nodes so far and the tokens that follow. -/
structure Reading where
  anchors : Anchors := []
  tokens : List Token

/-- A reader of nodes; `none` if the tokens do not make up what is read. -/
abbrev NodeReader (α : Type) := Reading → Option (α × Reading)

namespace Reading

/-- Is the next token one of these? No token at all counts as none of them. -/
def nextIs (r : Reading) (ts : List Token) : Bool :=
  r.tokens.head?.any (· ∈ ts)

/-- Takes the next token, which must be the given one. -/
def expect (r : Reading) (t : Token) : Option Reading :=
  match r.tokens with
  | u :: rest => if u = t then some { r with tokens := rest } else none
  | [] => none

def drop (r : Reading) : Reading :=
  { r with tokens := r.tokens.drop 1 }

end Reading

/-- What stands in front of a node. -/
structure Properties where
  anchor : Option Text := none
  tag : Option Text := none

/-- Takes an anchor and a tag, in any order. -/
def properties (r : Reading) : Properties × Reading :=
  match r.tokens with
  | .anchor a :: .tag t :: rest => (⟨some a, some t⟩, { r with tokens := rest })
  | .tag t :: .anchor a :: rest => (⟨some a, some t⟩, { r with tokens := rest })
  | .anchor a :: rest => (⟨some a, none⟩, { r with tokens := rest })
  | .tag t :: rest => (⟨none, some t⟩, { r with tokens := rest })
  | _ => ({}, r)

def named (name : Option Text) (node : Node) (r : Reading) : Node × Reading :=
  match name with
  | some a => (node, { r with anchors := (a, node) :: r.anchors })
  | none => (node, r)

/-- Where a node may stand: in a flow collection, in a block collection, or behind a key or a colon,
where a sequence need not be indented. -/
inductive Position where
  | flow
  | block
  | afterSign
deriving DecidableEq

mutual

/-- Reads a node. A reader calls another with less fuel; the fuel is a multiple of the number of
tokens, and of any two readers in a chain of calls one takes a token. -/
def node (position : Position) : Nat → NodeReader Node
  | 0, _ => none
  | n + 1, r =>
    match r.tokens with
    | .alias a :: rest => (r.anchors.find? (·.1 = a)).map fun p => (p.2, { r with tokens := rest })
    | _ =>
      let (props, r) := properties r
      let finish (p : Node × Reading) := named props.anchor p.1 p.2
      match r.tokens with
      | .scalar plain text :: rest =>
        some (finish (.scalar props.tag plain text, { r with tokens := rest }))
      | .flowSequenceStart :: rest =>
        (flowItems true n { r with tokens := rest }).map fun (xs, r) =>
          finish (.sequence props.tag xs, r)
      | .flowMappingStart :: rest =>
        (flowPairs true n { r with tokens := rest }).map fun (ps, r) =>
          finish (.mapping props.tag ps, r)
      | .entry :: _ =>
        if position = .afterSign then
          (looseItems n r).map fun (xs, r) => finish (.sequence props.tag xs, r)
        else if props.anchor.isSome || props.tag.isSome then
          some (finish (.scalar props.tag true [], r))
        else none
      | t :: rest =>
        if position ≠ .flow ∧ t = .sequenceStart then
          (blockItems n { r with tokens := rest }).map fun (xs, r) =>
            finish (.sequence props.tag xs, r)
        else if position ≠ .flow ∧ t = .mappingStart then
          (blockPairs n { r with tokens := rest }).map fun (ps, r) =>
            finish (.mapping props.tag ps, r)
        else if props.anchor.isSome || props.tag.isSome then
          some (finish (.scalar props.tag true [], r))
        else none
      | [] =>
        if props.anchor.isSome || props.tag.isSome then
          some (finish (.scalar props.tag true [], r))
        else none

/-- Reads a node unless one of the given tokens, or nothing, comes next. -/
def optional (position : Position) (stops : List Token) : Nat → NodeReader Node
  | 0, _ => none
  | n + 1, r => if r.nextIs stops then some (.empty, r) else node position n r

/-- Reads the items of a block sequence up to its end. -/
def blockItems : Nat → NodeReader (List Node)
  | 0, _ => none
  | n + 1, r =>
    if r.nextIs [.entry] then do
      let (x, r) ← optional .block [.entry, .blockEnd] n r.drop
      let (xs, r) ← blockItems n r
      some (x :: xs, r)
    else
      (r.expect .blockEnd).map fun r => ([], r)

/-- Reads the items of a sequence that is not indented. -/
def looseItems : Nat → NodeReader (List Node)
  | 0, _ => none
  | n + 1, r =>
    if r.nextIs [.entry] then do
      let (x, r) ← optional .block [.entry, .key, .value, .blockEnd] n r.drop
      let (xs, r) ← looseItems n r
      some (x :: xs, r)
    else
      some ([], r)

/-- Reads the pairs of a block mapping up to its end. -/
def blockPairs : Nat → NodeReader (List (Node × Node))
  | 0, _ => none
  | n + 1, r =>
    let stops : List Token := [.key, .value, .blockEnd]
    if r.nextIs [.key, .value] then do
      let (k, r) ← if r.nextIs [.key] then optional .afterSign stops n r.drop else some (.empty, r)
      let (v, r) ← if r.nextIs [.value] then optional .afterSign stops n r.drop else some (.empty, r)
      let (ps, r) ← blockPairs n r
      some ((k, v) :: ps, r)
    else
      (r.expect .blockEnd).map fun r => ([], r)

/-- Reads the value of a pair in a flow collection, if there is one. -/
def flowValue (stops : List Token) : Nat → NodeReader Node
  | 0, _ => none
  | n + 1, r => if r.nextIs [.value] then optional .flow stops n r.drop else some (.empty, r)

/-- Reads the items of a flow sequence up to its end. An item may be a single pair. -/
def flowItems (first : Bool) : Nat → NodeReader (List Node)
  | 0, _ => none
  | n + 1, r =>
    if r.nextIs [.flowSequenceEnd] then
      some ([], r.drop)
    else do
      let r ← if first then some r else r.expect .flowEntry
      if r.nextIs [.flowSequenceEnd] then
        some ([], r.drop)
      else
        let (x, r) ←
          if r.nextIs [.key] then do
            let (k, r) ← optional .flow [.value, .flowEntry, .flowSequenceEnd] n r.drop
            let (v, r) ← flowValue [.flowEntry, .flowSequenceEnd] n r
            some (Node.mapping none [(k, v)], r)
          else
            node .flow n r
        let (xs, r) ← flowItems false n r
        some (x :: xs, r)

/-- Reads the pairs of a flow mapping up to its end. -/
def flowPairs (first : Bool) : Nat → NodeReader (List (Node × Node))
  | 0, _ => none
  | n + 1, r =>
    if r.nextIs [.flowMappingEnd] then
      some ([], r.drop)
    else do
      let r ← if first then some r else r.expect .flowEntry
      if r.nextIs [.flowMappingEnd] then
        some ([], r.drop)
      else
        let (k, r) ←
          if r.nextIs [.key] then optional .flow [.value, .flowEntry, .flowMappingEnd] n r.drop
          else if r.nextIs [.value] then some (.empty, r)
          else node .flow n r
        let (v, r) ← flowValue [.flowEntry, .flowMappingEnd] n r
        let (ps, r) ← flowPairs false n r
        some ((k, v) :: ps, r)

end

/-- Reads one document: directives and a start that may be left out, a node that may be left out,
and any number of ends. Nothing may follow. -/
def document (tokens : List Token) : Option Node := do
  let explicit := tokens.head?.any (· ∈ [Token.directive, .documentStart])
  let tokens := tokens.dropWhile (· = .directive)
  let tokens ←
    if explicit then
      match tokens with
      | .documentStart :: rest => some rest
      | _ => none
    else
      some tokens
  if tokens = [] then
    some .empty
  else
    let stops : List Token := if explicit then [.directive, .documentStart, .documentEnd] else []
    let (x, r) ← optional .block stops (8 * (tokens.length + 1)) { tokens }
    if r.tokens.all (· = .documentEnd) then some x else none

end Yaml

end IssueMerge
