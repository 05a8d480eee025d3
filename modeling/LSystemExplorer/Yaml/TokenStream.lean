import LSystemExplorer.Yaml.Token

/-!
# The tokens of a text

A token stream yields the tokens of a text one by one and reads no further than
it has to.  Two things make it read ahead.

The colon that makes a scalar a key stands behind the scalar, so wherever a key
may begin the stream remembers the place, and it gives out no token from there
on until the colon has come or can no longer come.  A key has to end on its
line and within 1024 characters.  When the colon comes, a token for the key, and
one for the block that begins with it, go in front of the remembered token.

Indentation opens and closes blocks.  The stream keeps the columns of the open
ones; a deeper column opens a block, and a token further to the left closes all
blocks that are deeper.  Between brackets indentation means nothing.
-/

set_option autoImplicit false

namespace LSystemExplorer.Yaml

/-- A place where a key may have begun. -/
structure PendingKey where
  /-- The number of the token at that place, counted over the whole text. -/
  token : Nat
  /-- Nothing but a key can stand there. -/
  required : Bool
  mark : Mark
  deriving Repr, DecidableEq

/-- The colon can no longer come once the text has been read up to `mark`. -/
def PendingKey.isStale (pending : PendingKey) (mark : Mark) : Bool :=
  pending.mark.line < mark.line || pending.mark.index + 1024 < mark.index

/-- The state of reading tokens. -/
structure TokenStream where
  source : Source
  /-- The columns of the open blocks, the innermost first. -/
  blocks : List Nat
  /-- Where a key may have begun: outside of all brackets, which comes last, and
  inside each open one. -/
  keys : List (Option PendingKey)
  /-- A key may begin at the next token. -/
  keyAllowed : Bool
  /-- Tokens that were made and not taken yet. -/
  queue : List Token
  taken : Nat

namespace TokenStream

/-- The stream at the beginning of a text. -/
def ofList (text : List Char) : TokenStream where
  source := Source.ofList text
  blocks := []
  keys := [none]
  keyAllowed := true
  queue := []
  taken := 0

/-- The text stands inside of brackets. -/
def bracketed (stream : TokenStream) : Bool :=
  1 < stream.keys.length

/-- Where the stream has come to in the text. -/
def mark (stream : TokenStream) : Mark :=
  stream.source.mark

/-- Put a token behind those that wait. -/
def add (stream : TokenStream) (kind : TokenKind) (start finish : Mark) : TokenStream :=
  { stream with queue := stream.queue ++ [⟨kind, start, finish⟩] }

/-- Add a token of `width` characters and pass over them. -/
def addIndicator (stream : TokenStream) (kind : TokenKind) (width : Nat) : TokenStream :=
  let source := stream.source.drop width
  { stream.add kind stream.mark source.mark with source }

/-- Put a token without width in front of the token with the given number. -/
def insertBefore (stream : TokenStream) (token : Nat) (kind : TokenKind) (mark : Mark) :
    TokenStream :=
  let place := token - stream.taken
  { stream with
    queue := stream.queue.take place ++ ⟨kind, mark, mark⟩ :: stream.queue.drop place }

/-! ## Keys -/

/-- Forget the places where a key can no longer have begun; at some of them nothing
else was possible. -/
def dropStaleKeys (stream : TokenStream) : Except Fault TokenStream := do
  let keys ← stream.keys.mapM fun pending? =>
    match pending? with
    | some pending =>
      if pending.isStale stream.mark then
        if pending.required then .error .missingColon else .ok none
      else .ok (some pending)
    | none => .ok none
  return { stream with keys }

/-- Forget the place where a key may have begun on this level. -/
def dropKey (stream : TokenStream) : Except Fault TokenStream :=
  match stream.keys with
  | some pending :: outer =>
    if pending.required then .error .missingColon
    else .ok { stream with keys := none :: outer }
  | _ => .ok stream

/-- Remember that a key may begin with the next token. -/
def saveKey (stream : TokenStream) : Except Fault TokenStream := do
  if !stream.keyAllowed then return stream
  let required := !stream.bracketed && stream.blocks.head? = some stream.mark.column
  let stream ← stream.dropKey
  let pending : PendingKey := ⟨stream.taken + stream.queue.length, required, stream.mark⟩
  return { stream with keys := some pending :: stream.keys.drop 1 }

/-! ## Blocks -/

/-- A block at the column is deeper than all that are open. -/
def opensBlock (stream : TokenStream) (column : Nat) : Bool :=
  !stream.bracketed && stream.blocks.head?.all (· < column)

/-- Open a block at the place up to which the text was looked at, if it is deeper
than all others. -/
def openBlock (stream : TokenStream) (kind : TokenKind) : TokenStream :=
  let column := stream.mark.column
  if stream.opensBlock column then
    { stream.add kind stream.mark stream.mark with blocks := column :: stream.blocks }
  else stream

/-- Open a block for a key at a remembered place. -/
def openBlockBefore (stream : TokenStream) (pending : PendingKey) : TokenStream :=
  let column := pending.mark.column
  if stream.opensBlock column then
    { stream.insertBefore pending.token .blockMappingStart pending.mark with
      blocks := column :: stream.blocks }
  else stream

/-- Close the blocks that are of some kind, from the innermost out. -/
def closeBlocks (stream : TokenStream) (closes : Nat → Bool) : TokenStream :=
  if stream.bracketed then stream
  else
    let closed := stream.blocks.takeWhile closes
    { stream with
      queue := stream.queue ++ closed.map fun _ => ⟨.blockEnd, stream.mark, stream.mark⟩
      blocks := stream.blocks.drop closed.length }

/-! ## White space -/

/-- The sign that some programs put in front of a text. -/
def byteOrderMark : Char := '\ufeff'

/-- Pass over blanks, comments and ends of lines.  A tab counts as a blank only
where it cannot be taken for indentation.  Each line may begin with a byte order
mark, which takes up a column. -/
def dropSpace : Nat → TokenStream → TokenStream
  | 0, stream => stream
  | fuel + 1, stream =>
    let source := stream.source
    let source :=
      if source.mark.column = 0 && source.startsWith byteOrderMark then source.drop 1 else source
    let tabs := stream.bracketed || !stream.keyAllowed
    let source := source.dropWhile fun character => character = ' ' || (tabs && character = '\t')
    let source := if source.startsWith '#' then source.dropLine else source
    if source.peek.any isBreak then
      dropSpace fuel { stream with
        source := source.takeBreak.2
        keyAllowed := stream.keyAllowed || !stream.bracketed }
    else { stream with source }

/-! ## One token after another -/

/-- The end of the text closes everything. -/
def addEnd (stream : TokenStream) : Except Fault TokenStream := do
  let mark := stream.mark
  let mark : Mark := if mark.column = 0 then mark else ⟨mark.index, mark.line + 1, 0⟩
  let stream := { stream with source := { stream.source with mark } }
  let stream ← (stream.closeBlocks fun _ => true).dropKey
  return { stream.add .streamEnd mark mark with keyAllowed := false }

/-- Take a directive, which ends all blocks. -/
def addDirective (stream : TokenStream) : Except Fault TokenStream := do
  let stream ← (stream.closeBlocks fun _ => true).dropKey
  let (token, source) ← takeDirective stream.source
  return { stream with source, keyAllowed := false, queue := stream.queue ++ [token] }

/-- Three dashes or dots end all blocks. -/
def addDocumentMark (stream : TokenStream) : Except Fault TokenStream := do
  let kind := if stream.source.startsWith '-' then TokenKind.documentStart else .documentEnd
  let stream ← (stream.closeBlocks fun _ => true).dropKey
  return { stream.addIndicator kind 3 with keyAllowed := false }

/-- An opening bracket may be the beginning of a key, and a key may begin behind
it. -/
def addOpening (stream : TokenStream) (kind : TokenKind) : Except Fault TokenStream := do
  let stream ← stream.saveKey
  return { stream.addIndicator kind 1 with keys := none :: stream.keys, keyAllowed := true }

/-- A closing bracket goes back to the level outside, if there is one. -/
def addClosing (stream : TokenStream) (kind : TokenKind) : Except Fault TokenStream := do
  let stream ← stream.dropKey
  let keys := if stream.bracketed then stream.keys.drop 1 else stream.keys
  return { stream.addIndicator kind 1 with keys, keyAllowed := false }

/-- Take the comma between the entries of a collection in brackets. -/
def addFlowEntry (stream : TokenStream) : Except Fault TokenStream := do
  let stream ← stream.dropKey
  return { stream.addIndicator .flowEntry 1 with keyAllowed := true }

/-- Take the dash before an entry, which may open a sequence. -/
def addBlockEntry (stream : TokenStream) : Except Fault TokenStream := do
  if !stream.bracketed && !stream.keyAllowed then throw .strayIndicator
  let stream ← (stream.openBlock .blockSequenceStart).dropKey
  return { stream.addIndicator .blockEntry 1 with keyAllowed := true }

/-- Take the mark before a key, which may open a mapping. -/
def addKey (stream : TokenStream) : Except Fault TokenStream := do
  if !stream.bracketed && !stream.keyAllowed then throw .strayIndicator
  let stream ← (stream.openBlock .blockMappingStart).dropKey
  return { stream.addIndicator .key 1 with keyAllowed := !stream.bracketed }

/-- A colon ends a key, be it one that was announced, one that is missing, or one
that began at a remembered place. -/
def addValue (stream : TokenStream) : Except Fault TokenStream := do
  match stream.keys with
  | some pending :: outer =>
    let stream := stream.insertBefore pending.token .key pending.mark
    let stream := stream.openBlockBefore pending
    return { stream.addIndicator .value 1 with keys := none :: outer, keyAllowed := false }
  | _ =>
    if !stream.bracketed && !stream.keyAllowed then throw .strayIndicator
    let stream := stream.openBlock .blockMappingStart
    return { stream.addIndicator .value 1 with keyAllowed := !stream.bracketed }

/-- Take a token that may begin a key. -/
def addNamed (stream : TokenStream) (read : Source → Except Fault (TokenKind × Source)) :
    Except Fault TokenStream := do
  let stream ← stream.saveKey
  let (kind, source) ← read stream.source
  return { stream.add kind stream.mark source.mark with source, keyAllowed := false }

/-- An anchor, or a reference to one. -/
def addName (stream : TokenStream) (kind : List Char → TokenKind) : Except Fault TokenStream :=
  stream.addNamed fun source => do
    let (name, next) ← takeName source
    return (kind name, next)

/-- Take a tag. -/
def addTag (stream : TokenStream) : Except Fault TokenStream :=
  stream.addNamed fun source => do
    let (handle, suffix, next) ← takeTag stream.bracketed source
    return (.tag handle suffix, next)

/-- Take a quoted scalar. -/
def addQuoted (stream : TokenStream) (style : ScalarStyle) : Except Fault TokenStream :=
  stream.addNamed fun source => do
    let scanned ← quotedScalar style source
    return (.scalar scanned.text style, scanned.rest)

/-- A block scalar, which cannot be a key. -/
def addBlockScalar (stream : TokenStream) (style : ScalarStyle) : Except Fault TokenStream := do
  let stream ← stream.dropKey
  let scanned ← blockScalar style stream.blocks.head? stream.source
  return { stream.add (.scalar scanned.text style) stream.mark scanned.rest.mark with
    source := scanned.rest
    keyAllowed := true }

/-- Take a plain scalar. -/
def addPlain (stream : TokenStream) : Except Fault TokenStream := do
  let stream ← stream.saveKey
  let indent := (stream.blocks.head?.map (· + 1)).getD 0
  let scanned ← plainScalar stream.bracketed indent stream.source
  return { stream.add (.scalar scanned.text .plain) stream.mark scanned.rest.mark with
    source := scanned.rest
    keyAllowed := scanned.atLineEnd }

/-- Make the token that begins with the given character. -/
def addFrom (stream : TokenStream) (character : Char) : Except Fault TokenStream :=
  let atWordEnd := endsWord (stream.source.peekAt 1)
  if character = '%' && stream.mark.column = 0 then stream.addDirective
  else if stream.source.atDocumentMark then stream.addDocumentMark
  else
    match character with
    | '[' => stream.addOpening .flowSequenceStart
    | '{' => stream.addOpening .flowMappingStart
    | ']' => stream.addClosing .flowSequenceEnd
    | '}' => stream.addClosing .flowMappingEnd
    | ',' => stream.addFlowEntry
    | '-' => if atWordEnd then stream.addBlockEntry else stream.addPlain
    | '?' => if stream.bracketed || atWordEnd then stream.addKey else stream.addPlain
    | ':' => if stream.bracketed || atWordEnd then stream.addValue else stream.addPlain
    | '*' => stream.addName .reference
    | '&' => stream.addName .anchor
    | '!' => stream.addTag
    | '\'' => stream.addQuoted .singleQuoted
    | '"' => stream.addQuoted .doubleQuoted
    | '|' => if stream.bracketed then .error .strayCharacter else stream.addBlockScalar .literal
    | '>' => if stream.bracketed then .error .strayCharacter else stream.addBlockScalar .folded
    | other =>
      if ['\t', '#', '%', '@', '\x60'].contains other then .error .strayCharacter
      else stream.addPlain

/-- Make the next token, and the tokens for blocks that it opens or closes. -/
def addNext (stream : TokenStream) : Except Fault TokenStream := do
  let stream := dropSpace (stream.source.rest.length + 1) stream
  let stream ← stream.dropStaleKeys
  let column := stream.mark.column
  let stream := stream.closeBlocks (column < ·)
  match stream.source.peek with
  | none => stream.addEnd
  | some character => stream.addFrom character

/-- Make tokens until the first one can be given out, that is, until no key can
begin with it any more. -/
def prepare : Nat → TokenStream → Except Fault TokenStream
  | 0, stream => .ok stream
  | fuel + 1, stream => do
    if stream.queue.isEmpty then prepare fuel (← stream.addNext)
    else
      let stream ← stream.dropStaleKeys
      let undecided := stream.keys.any fun pending? =>
        pending?.any fun pending => pending.token = stream.taken
      if undecided then prepare fuel (← stream.addNext) else return stream

/-- The next token, once it is certain that no other comes before it. -/
def peek (stream : TokenStream) : Except Fault (Token × TokenStream) := do
  let stream ← prepare (stream.source.rest.length + 2) stream
  match stream.queue with
  | [] => throw .missingNode
  | token :: _ => return (token, stream)

/-- Leave the next token behind. -/
def drop (stream : TokenStream) : TokenStream :=
  { stream with queue := stream.queue.drop 1, taken := stream.taken + 1 }

end TokenStream

end LSystemExplorer.Yaml
