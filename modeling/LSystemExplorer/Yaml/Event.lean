import LSystemExplorer.Yaml.TokenStream

/-!
# The events of a text

The structure of a text is given by a stream of events: documents, collections
that begin and end, scalars, and references to anchors.  Events come from tokens
by a stack of goals.  The goal on top looks at the next token, takes what it
needs, and leaves behind the goals that remain; a step yields at most one event.
What is left out between tokens, such as the value of a key, counts as a plain
scalar without text.
-/

set_option autoImplicit false

namespace LSystemExplorer.Yaml

/-- A piece of text that stands for one value. -/
structure Scalar where
  text : List Char
  style : ScalarStyle
  /-- Its tag, with the shorthand replaced by what it is short for. -/
  tag : Option (List Char)
  deriving Repr, DecidableEq

/-- Nothing at all was written: a plain scalar without text. -/
def Scalar.isAbsent (scalar : Scalar) : Bool :=
  scalar.text.isEmpty && scalar.style = .plain

/-- What a text turns out to hold, from its beginning to its end. -/
inductive Event
  | documentStart
  | documentEnd
  | streamEnd
  | reference (name : List Char)
  | scalar (anchor : Option (List Char)) (scalar : Scalar)
  | sequenceStart (anchor : Option (List Char))
  | sequenceEnd
  | mappingStart (anchor : Option (List Char))
  | mappingEnd
  deriving Repr, DecidableEq

/-- What may come next in a text. -/
inductive Goal
  /-- A document, or the end of the text; a document after the first one, or after
  directives, begins with three dashes. -/
  | document (mayBeImplicit : Bool)
  /-- What stands behind the three dashes. -/
  | content
  | documentEnd
  /-- A node.  Block collections are allowed, or also sequences that are not
  indented. -/
  | node (block indentless : Bool)
  /-- A node that is left out if one of some tokens comes next; it then counts as
  written at the place, or where that token begins. -/
  | optionalNode (stops : List TokenKind) (block indentless : Bool) (mark : Option Mark)
  | blockEntries
  /-- The further entries of a sequence that is not indented. -/
  | indentlessEntries
  | blockKeys
  | blockValue
  | flowEntries (first : Bool)
  /-- The key of a pair that stands by itself in a bracketed sequence. -/
  | pairKey
  | pairValue
  | pairEnd
  | flowKeys (first : Bool)
  | flowValue
  /-- The value of a key that has none. -/
  | absentValue
  | nothing
  deriving Repr, DecidableEq

/-- The state of reading events. -/
structure EventStream where
  tokens : TokenStream
  /-- What is to come, the nearest first. -/
  goals : List Goal
  /-- The shorthands of the current document and what they are short for. -/
  shorthands : List (List Char × List Char)

/-- An event and where it stands in the text. -/
structure Located where
  event : Event
  mark : Mark
  deriving Repr, DecidableEq

namespace EventStream

/-- The stream at the beginning of a text. -/
def ofList (text : List Char) : EventStream where
  tokens := TokenStream.ofList text
  goals := [.document true]
  shorthands := []

/-- The outcome of a step: an event, if there is one, and the stream after it. -/
abbrev Outcome := Except Fault (Option Located × EventStream)

/-- The next token, which stays where it is. -/
def peek (stream : EventStream) : Except Fault (Token × EventStream) := do
  let (token, tokens) ← stream.tokens.peek
  return (token, { stream with tokens })

/-- Take the token that was looked at. -/
def drop (stream : EventStream) : EventStream :=
  { stream with tokens := stream.tokens.drop }

/-- Replace the goal on top, which was taken off, by others. -/
def push (stream : EventStream) (goals : List Goal) : EventStream :=
  { stream with goals := goals ++ stream.goals }

/-- Go on with an event. -/
def yield (stream : EventStream) (event : Event) (mark : Mark) : Outcome :=
  .ok (some ⟨event, mark⟩, stream)

/-- Go on without an event. -/
def proceed (stream : EventStream) : Outcome :=
  .ok (none, stream)

/-- A node that was left out. -/
def yieldAbsent (stream : EventStream) (mark : Mark) : Outcome :=
  stream.yield (.scalar none ⟨[], .plain, none⟩) mark

/-! ## Documents -/

/-- The shorthands that every document has. -/
def standardShorthands : List (List Char × List Char) :=
  [("!".toList, "!".toList), ("!!".toList, "tag:yaml.org,2002:".toList)]

/-- Take the directives before a document.  The version is given at most once and
has to be one of two, and no shorthand is declared twice. -/
def takeDirectives :
    Nat → Bool → List (List Char × List Char) → EventStream → Except Fault EventStream
  | 0, _, _, stream => .ok stream
  | fuel + 1, versioned, declared, stream => do
    let (token, stream) ← stream.peek
    match token.kind with
    | .versionDirective major minor =>
      if versioned then throw .badDirective
      if major ≠ 1 || (minor ≠ 1 && minor ≠ 2) then throw .unsupportedVersion
      takeDirectives fuel true declared stream.drop
    | .shorthandDirective handle expansion =>
      if (declared.lookup handle).isSome then throw .badDirective
      takeDirectives fuel versioned (declared ++ [(handle, expansion)]) stream.drop
    | _ => return { stream with shorthands := declared ++ standardShorthands }

/-- Pass over the marks that end documents. -/
def dropDocumentEnds : Nat → EventStream → Except Fault EventStream
  | 0, stream => .ok stream
  | fuel + 1, stream => do
    let (token, stream) ← stream.peek
    if token.kind = .documentEnd then dropDocumentEnds fuel stream.drop else return stream

/-- How many tokens may come at most. -/
def fuel (stream : EventStream) : Nat :=
  stream.tokens.source.rest.length + stream.tokens.queue.length + 3

/-- A document begins, or the text ends. -/
def atDocument (stream : EventStream) (mayBeImplicit : Bool) : Outcome := do
  let stream ← if mayBeImplicit then pure stream else dropDocumentEnds stream.fuel stream
  let (token, stream) ← stream.peek
  let explicit :=
    match token.kind with
    | .versionDirective .. => true
    | .shorthandDirective .. => true
    | .documentStart => true
    | _ => !mayBeImplicit
  if token.kind = .streamEnd then (stream.drop.push [.nothing]).yield .streamEnd token.start
  else if explicit then
    let stream ← takeDirectives stream.fuel false [] stream
    let (start, stream) ← stream.peek
    if start.kind ≠ .documentStart then throw .missingDocumentStart
    (stream.drop.push [.content, .documentEnd]).yield .documentStart token.start
  else
    let stream := { stream with shorthands := standardShorthands }
    (stream.push [.node true false, .documentEnd]).yield .documentStart token.start

/-- The content of a document behind its three dashes, which may be left out. -/
def atContent (stream : EventStream) : Outcome := do
  let (token, stream) ← stream.peek
  match token.kind with
  | .versionDirective .. => stream.yieldAbsent token.start
  | .shorthandDirective .. => stream.yieldAbsent token.start
  | .documentStart => stream.yieldAbsent token.start
  | .documentEnd => stream.yieldAbsent token.start
  | .streamEnd => stream.yieldAbsent token.start
  | _ => (stream.push [.node true false]).proceed

/-- A document ends; the next one begins with three dashes. -/
def atDocumentEnd (stream : EventStream) : Outcome := do
  let (token, stream) ← stream.peek
  let stream := if token.kind = .documentEnd then stream.drop else stream
  (stream.push [.document false]).yield .documentEnd token.start

/-! ## Nodes -/

/-- The anchor and the tag before a node. -/
structure Properties where
  anchor : Option (List Char)
  /-- The tag: its shorthand and its suffix. -/
  tag : Option (List Char × List Char)
  start : Option Mark

/-- Take an anchor, if the next token is one. -/
def takeAnchor (properties : Properties) (stream : EventStream) :
    Except Fault (Properties × EventStream) := do
  let (token, stream) ← stream.peek
  match token.kind with
  | .anchor name =>
    return ({ properties with anchor := some name, start := properties.start <|> token.start },
      stream.drop)
  | _ => return (properties, stream)

/-- Take a tag, if the next token is one. -/
def takeTag (properties : Properties) (stream : EventStream) :
    Except Fault (Properties × EventStream) := do
  let (token, stream) ← stream.peek
  match token.kind with
  | .tag handle suffix =>
    return ({ properties with
      tag := some (handle, suffix), start := properties.start <|> token.start }, stream.drop)
  | _ => return (properties, stream)

/-- Take an anchor and a tag, in either order, as far as they are there. -/
def takeProperties (stream : EventStream) : Except Fault (Properties × EventStream) := do
  let (properties, stream) ← takeAnchor ⟨none, none, none⟩ stream
  if properties.anchor.isSome then takeTag properties stream
  else
    let (properties, stream) ← takeTag properties stream
    if properties.tag.isSome then takeAnchor properties stream else return (properties, stream)

/-- A tag in full. -/
def resolveTag (stream : EventStream) : Option (List Char × List Char) →
    Except Fault (Option (List Char))
  | none => .ok none
  | some ([], suffix) => .ok (some suffix)
  | some (handle, suffix) =>
    match stream.shorthands.lookup handle with
    | none => .error .undeclaredShorthand
    | some expansion => .ok (some (expansion ++ suffix))

/-- Go on at a node: a reference, a scalar, or the start of a collection. -/
def atNode (stream : EventStream) (block indentless : Bool) : Outcome := do
  let (token, stream) ← stream.peek
  match token.kind with
  | .reference name => stream.drop.yield (.reference name) token.start
  | _ =>
    let (properties, stream) ← takeProperties stream
    let tag ← stream.resolveTag properties.tag
    let (token, stream) ← stream.peek
    let start := properties.start.getD token.start
    match token.kind with
    | .blockEntry =>
      if indentless then
        (stream.push [.indentlessEntries]).yield (.sequenceStart properties.anchor) start
      else if properties.start.isSome then
        stream.yield (.scalar properties.anchor ⟨[], .plain, tag⟩) start
      else throw .missingNode
    | .scalar text style => stream.drop.yield (.scalar properties.anchor ⟨text, style, tag⟩) start
    | .flowSequenceStart =>
      (stream.drop.push [.flowEntries true]).yield (.sequenceStart properties.anchor) start
    | .flowMappingStart =>
      (stream.drop.push [.flowKeys true]).yield (.mappingStart properties.anchor) start
    | kind =>
      if block && kind = .blockSequenceStart then
        (stream.drop.push [.blockEntries]).yield (.sequenceStart properties.anchor) start
      else if block && kind = .blockMappingStart then
        (stream.drop.push [.blockKeys]).yield (.mappingStart properties.anchor) start
      else if properties.start.isSome then
        stream.yield (.scalar properties.anchor ⟨[], .plain, tag⟩) start
      else throw .missingNode

/-- A node begins, unless it is left out. -/
def atOptionalNode (stream : EventStream) (stops : List TokenKind) (block indentless : Bool)
    (mark : Option Mark) : Outcome := do
  let (token, stream) ← stream.peek
  if stops.contains token.kind then stream.yieldAbsent (mark.getD token.start)
  else (stream.push [.node block indentless]).proceed

/-! ## Blocks -/

/-- An entry of a block sequence, or its end. -/
def atBlockEntries (stream : EventStream) : Outcome := do
  let (token, stream) ← stream.peek
  match token.kind with
  | .blockEntry =>
    (stream.drop.push
      [.optionalNode [.blockEntry, .blockEnd] true false (some token.finish),
        .blockEntries]).proceed
  | .blockEnd => stream.drop.yield .sequenceEnd token.start
  | _ => throw .missingEntry

/-- An entry of a sequence that is not indented, or its end, which no token
marks. -/
def atIndentlessEntries (stream : EventStream) : Outcome := do
  let (token, stream) ← stream.peek
  match token.kind with
  | .blockEntry =>
    (stream.drop.push
      [.optionalNode [.blockEntry, .key, .value, .blockEnd] true false (some token.finish),
        .indentlessEntries]).proceed
  | _ => stream.yield .sequenceEnd token.start

/-- A key of a block mapping, or its end. -/
def atBlockKeys (stream : EventStream) : Outcome := do
  let (token, stream) ← stream.peek
  match token.kind with
  | .key =>
    (stream.drop.push
      [.optionalNode [.key, .value, .blockEnd] true true (some token.finish),
        .blockValue, .blockKeys]).proceed
  | .blockEnd => stream.drop.yield .mappingEnd token.start
  | _ => throw .missingEntry

/-- Go on at the value of a key in a block mapping. -/
def atBlockValue (stream : EventStream) : Outcome := do
  let (token, stream) ← stream.peek
  match token.kind with
  | .value =>
    (stream.drop.push
      [.optionalNode [.key, .value, .blockEnd] true true (some token.finish)]).proceed
  | _ => stream.yieldAbsent token.start

/-! ## Brackets -/

/-- Take the comma before an entry, unless it is the first one. -/
def takeComma (stream : EventStream) (first : Bool) : Except Fault (Token × EventStream) := do
  let (token, stream) ← stream.peek
  if first then return (token, stream)
  if token.kind ≠ .flowEntry then throw .missingEntry
  stream.drop.peek

/-- An entry of a bracketed sequence, or its end. -/
def atFlowEntries (stream : EventStream) (first : Bool) : Outcome := do
  let (token, stream) ← stream.peek
  if token.kind = .flowSequenceEnd then stream.drop.yield .sequenceEnd token.start
  else
    let (token, stream) ← stream.takeComma first
    if token.kind = .key then
      (stream.drop.push [.pairKey, .pairValue, .pairEnd, .flowEntries false]).yield
        (.mappingStart none) token.start
    else if token.kind = .flowSequenceEnd then stream.drop.yield .sequenceEnd token.start
    else (stream.push [.node false false, .flowEntries false]).proceed

/-- The key of a pair in a bracketed sequence.  The token that shows that it was
left out is passed over. -/
def atPairKey (stream : EventStream) : Outcome := do
  let (token, stream) ← stream.peek
  if [.value, .flowEntry, .flowSequenceEnd].contains token.kind then
    stream.drop.yieldAbsent token.finish
  else (stream.push [.node false false]).proceed

/-- Go on at the value of a single pair in a flow sequence. -/
def atPairValue (stream : EventStream) : Outcome := do
  let (token, stream) ← stream.peek
  match token.kind with
  | .value =>
    (stream.drop.push [.optionalNode [.flowEntry, .flowSequenceEnd] false false none]).proceed
  | _ => stream.yieldAbsent token.start

/-- Go on behind a single pair in a flow sequence. -/
def atPairEnd (stream : EventStream) : Outcome := do
  let (token, stream) ← stream.peek
  stream.yield .mappingEnd token.start

/-- A key of a bracketed mapping, or its end. -/
def atFlowKeys (stream : EventStream) (first : Bool) : Outcome := do
  let (token, stream) ← stream.peek
  if token.kind = .flowMappingEnd then stream.drop.yield .mappingEnd token.start
  else
    let (token, stream) ← stream.takeComma first
    if token.kind = .key then
      (stream.drop.push
        [.optionalNode [.value, .flowEntry, .flowMappingEnd] false false none,
          .flowValue, .flowKeys false]).proceed
    else if token.kind = .flowMappingEnd then stream.drop.yield .mappingEnd token.start
    else (stream.push [.node false false, .absentValue, .flowKeys false]).proceed

/-- Go on at the value of a key in a flow mapping. -/
def atFlowValue (stream : EventStream) : Outcome := do
  let (token, stream) ← stream.peek
  match token.kind with
  | .value =>
    (stream.drop.push [.optionalNode [.flowEntry, .flowMappingEnd] false false none]).proceed
  | _ => stream.yieldAbsent token.start

/-- The value of a key of a bracketed mapping that has none. -/
def atAbsentValue (stream : EventStream) : Outcome := do
  let (token, stream) ← stream.peek
  stream.yieldAbsent token.start

/-! ## Steps -/

/-- Go on toward a goal. -/
def pursue (stream : EventStream) : Goal → Outcome
  | .document mayBeImplicit => stream.atDocument mayBeImplicit
  | .content => stream.atContent
  | .documentEnd => stream.atDocumentEnd
  | .node block indentless => stream.atNode block indentless
  | .optionalNode stops block indentless mark =>
    stream.atOptionalNode stops block indentless mark
  | .blockEntries => stream.atBlockEntries
  | .indentlessEntries => stream.atIndentlessEntries
  | .blockKeys => stream.atBlockKeys
  | .blockValue => stream.atBlockValue
  | .flowEntries first => stream.atFlowEntries first
  | .pairKey => stream.atPairKey
  | .pairValue => stream.atPairValue
  | .pairEnd => stream.atPairEnd
  | .flowKeys first => stream.atFlowKeys first
  | .flowValue => stream.atFlowValue
  | .absentValue => stream.atAbsentValue
  | .nothing => .error .missingNode

/-- Go on toward the next goal. -/
def step (stream : EventStream) : Outcome :=
  match stream.goals with
  | [] => .error .missingNode
  | goal :: goals => { stream with goals }.pursue goal

/-- Take steps until there is an event. -/
def nextWithin : Nat → EventStream → Except Fault (Located × EventStream)
  | 0, _ => .error .missingNode
  | fuel + 1, stream => do
    match ← stream.step with
    | (some located, stream) => return (located, stream)
    | (none, stream) => nextWithin fuel stream

/-- The next event.  No goal leads to more than two others in a row before an event
comes. -/
def next (stream : EventStream) : Except Fault (Located × EventStream) :=
  nextWithin 8 stream

end EventStream

end LSystemExplorer.Yaml
