import NetworkRollout.Yaml.Scalar

/-!
# The tokens of a YAML text

Indentation becomes tokens that open and close blocks, and a scalar or collection that a colon
follows on the same line becomes the key of a mapping. A possible key is remembered for each
level of brackets and braces; when its colon comes, the tokens that open the mapping are put in
front of it.
-/

namespace NetworkRollout.Yaml

/-- A token of a YAML text. The end of the text has none. -/
inductive Token where
  | versionDirective (major minor : Nat)
  | tagDirective (handle replacement : String)
  | documentStart
  | documentEnd
  | blockSequenceStart
  | blockMappingStart
  | blockEnd
  | flowSequenceStart
  | flowSequenceEnd
  | flowMappingStart
  | flowMappingEnd
  | blockEntry
  | flowEntry
  | key
  | value
  | alias (name : String)
  | anchor (name : String)
  | tag (handle suffix : String)
  | scalar (text : String) (plain : Bool)
  deriving DecidableEq, Repr, Inhabited

/-- A token that may turn out to start a key. -/
structure KeyCandidate where
  /-- Whether nothing else than a key can stand there. -/
  required : Bool
  /-- The number of tokens in front of it. -/
  position : Nat
  index : Nat
  line : Nat
  column : Nat
  deriving Repr

structure TokenReader where
  cursor : Cursor
  tokens : Array Token := #[]
  /-- The indentation of the innermost block; -1 outside all blocks. -/
  indent : Int := -1
  /-- The indentations of the blocks around it. -/
  outer : List Int := []
  /-- The key candidate of the innermost brackets, then of those around them. -/
  candidates : List (Option KeyCandidate) := [none]
  /-- Whether a key may start here. -/
  keyAllowed : Bool := true

namespace TokenReader

def inFlow (r : TokenReader) : Bool := 1 < r.candidates.length

def push (r : TokenReader) (t : Token) : TokenReader := { r with tokens := r.tokens.push t }

/-- Adds a token in front of those from the position on. -/
def insert (r : TokenReader) (position : Nat) (t : Token) : TokenReader :=
  { r with tokens := (r.tokens.take position).push t ++ r.tokens.drop position }

def skip (r : TokenReader) (n : Nat) : TokenReader := { r with cursor := r.cursor.skipMany n }

/-- Opens a block at a column right of the innermost one. -/
def openBlock (r : TokenReader) (column position : Nat) (t : Token) : TokenReader :=
  if r.inFlow then r
  else if r.indent < column then
    { r.insert position t with indent := column, outer := r.indent :: r.outer }
  else r

def closeBlocks (r : TokenReader) (column : Int) : TokenReader :=
  if r.inFlow then r else go r.outer r
where
  go : List Int → TokenReader → TokenReader
    | [], r => r
    | i :: outer, r =>
      if column < r.indent then
        go outer { r.push .blockEnd with indent := i, outer }
      else r

/-- Gives up the key candidate of the innermost brackets. -/
def dropCandidate (r : TokenReader) : Option TokenReader :=
  match r.candidates with
  | some k :: rest => if k.required then none else some { r with candidates := none :: rest }
  | _ => some r

/-- Remembers that a key may start here. -/
def saveCandidate (r : TokenReader) : Option TokenReader :=
  if r.keyAllowed then do
    let r ← r.dropCandidate
    let c := r.cursor
    let candidate : KeyCandidate :=
      { required := !r.inFlow && r.indent = c.column
        position := r.tokens.size, index := c.index, line := c.line, column := c.column }
    return { r with candidates := some candidate :: r.candidates.drop 1 }
  else some r

/-- Gives up the candidates that are on another line or too far back. -/
def dropStale (r : TokenReader) : Option TokenReader := do
  let check (k : Option KeyCandidate) : Option (Option KeyCandidate) :=
    match k with
    | none => some none
    | some k =>
      if k.line < r.cursor.line || k.index + 1024 < r.cursor.index then
        if k.required then none else some none
      else some (some k)
  return { r with candidates := ← r.candidates.mapM check }

/-- Moves over blanks, comments and line ends to the next token. Outside brackets a new line may
start a key, and a tab cannot indent it. A byte order mark may start a line. -/
def toNextToken (r : TokenReader) : TokenReader :=
  go (r.cursor.rest.length + 1) r
where
  go : Nat → TokenReader → TokenReader
    | 0, r => r
    | fuel + 1, r =>
      let tabs := r.inFlow || !r.keyAllowed
      let c := if r.cursor.column = 0 && r.cursor.has '\ufeff' then r.cursor.skip else r.cursor
      let c := c.skipWhile fun x => x = ' ' || (tabs && x = '\t')
      let c := if c.has '#' then c.takeLine.2 else c
      if c.breakAt 0 then
        go fuel { r with cursor := c.skipBreak, keyAllowed := r.keyAllowed || !r.inFlow }
      else { r with cursor := c }

/-! ## Directives -/

/-- A number of at most nine digits. -/
def directiveNumber? (c : Cursor) : Option (Nat × Cursor) :=
  let (digits, c) := c.takeWhile Char.isDigit
  if digits.isEmpty || 9 < digits.length then none
  else some (Nat.ofDigitChars 10 digits 0, c)

/-- The handle of a tag. In a directive it ends with an exclamation mark. -/
def tagHandle? (inDirective : Bool) (c : Cursor) : Option (List Char × Cursor) :=
  if c.has '!' then
    let (name, c) := c.skip.takeWhile isNameChar
    if c.has '!' then some ('!' :: name ++ ['!'], c.skip)
    else if inDirective && !name.isEmpty then none
    else some ('!' :: name, c)
  else none

/-- The characters of tags; flow indicators only where they cannot be mistaken. -/
def isTagChar (verbatim : Bool) (c : Char) : Bool :=
  isNameChar c || c ∈ [';', '/', '?', ':', '@', '&', '=', '+', '$', '.', '!', '~', '*', '\'',
    '(', ')'] || (verbatim && c ∈ [',', '[', ']'])

/-- One escaped byte of a tag. -/
def escapedByte? : List Char → Option Nat
  | '%' :: a :: b :: _ => do return (← Text.hexDigit? a) * 16 + (← Text.hexDigit? b)
  | _ => none

/-- How many bytes the character has that starts with a byte. -/
def encodedWidth? (byte : Nat) : Option Nat :=
  if byte < 0x80 then some 1
  else if byte / 0x20 = 0x6 then some 2
  else if byte / 0x10 = 0xE then some 3
  else if byte / 8 = 0x1E then some 4
  else none

/-- The bytes of one escaped character: the first says how many follow. -/
def escapedBytes? (c : Cursor) : Option (List Nat × Cursor) := do
  let first ← escapedByte? c.rest
  let width ← encodedWidth? first
  let others ← (List.range (width - 1)).mapM fun i => do
    let byte ← escapedByte? (c.rest.drop (3 * (i + 1)))
    if byte / 0x40 = 2 then some byte else none
  return (first :: others, c.skipMany (3 * width))

/-- The text of bytes in UTF-8. -/
def textOfBytes? (bytes : List Nat) : Option (List Char) :=
  (String.fromUTF8? ⟨(bytes.map (·.toUInt8)).toArray⟩).map String.toList

/-- The characters of a tag, escapes resolved. -/
def tagText? (verbatim : Bool) : Nat → Cursor → Option (List Char × Cursor)
  | 0, c => some ([], c)
  | fuel + 1, c =>
    match c.rest with
    | x :: _ =>
      if x = '%' then do
        let (bytes, c) ← escapedBytes? c
        let chars ← textOfBytes? bytes
        let (rest, c) ← tagText? verbatim fuel c
        return (chars ++ rest, c)
      else if isTagChar verbatim x then do
        let (rest, c) ← tagText? verbatim fuel c.skip
        return (x :: rest, c)
      else some ([], c)
    | [] => some ([], c)

/-- A tag without its handle; not empty unless a handle stands in front of it. -/
def tagSuffix? (verbatim : Bool) (c : Cursor) : Option (List Char × Cursor) :=
  tagText? verbatim (c.rest.length + 1) c

/-- A tag: verbatim between angle brackets, or a handle and a suffix. The handle of a local tag
is `!`, and a lone exclamation mark is a suffix without handle. -/
def tag? (inFlow : Bool) (c : Cursor) : Option (Token × Cursor) := do
  let (token, c) ← scan
  if (inFlow && c.has ',') || c.gapAt 0 then some (token, c) else none
where
  scan : Option (Token × Cursor) :=
    if c.at? 1 = some '<' then do
      let (suffix, c) ← tagSuffix? true (c.skipMany 2)
      if suffix.isEmpty || !c.has '>' then none
      else return (.tag "" (String.ofList suffix), c.skip)
    else do
      let (handle, c) ← tagHandle? false c
      let (suffix, c) ← tagSuffix? false c
      if 1 < handle.length && handle.getLast? = some '!' then
        if suffix.isEmpty then none
        else return (.tag (String.ofList handle) (String.ofList suffix), c)
      else
        let suffix := handle.drop 1 ++ suffix
        if suffix.isEmpty then return (.tag "" "!", c)
        else return (.tag "!" (String.ofList suffix), c)

/-- A directive after its percent sign, up to the end of its line. -/
def directive? (c : Cursor) : Option (Token × Cursor) := do
  let (name, c) := c.takeWhile isNameChar
  if name.isEmpty || !c.gapAt 0 then none
  else
    let (token, c) ←
      if name = "YAML".toList then do
        let (major, c) ← directiveNumber? (c.skipWhile isBlank)
        if !c.has '.' then none
        else
          let (minor, c) ← directiveNumber? c.skip
          some (Token.versionDirective major minor, c)
      else if name = "TAG".toList then do
        let (handle, c) ← tagHandle? true (c.skipWhile isBlank)
        if !c.onBlank then none
        else
          let (replacement, c) ← tagSuffix? true (c.skipWhile isBlank)
          if replacement.isEmpty || !c.gapAt 0 then none
          else some (.tagDirective (String.ofList handle) (String.ofList replacement), c)
      else none
    let c := c.skipWhile isBlank
    let c := if c.has '#' then c.takeLine.2 else c
    if c.endAt 0 then some (token, c.skipBreak) else none

/-! ## Tokens -/

/-- The name of an anchor or alias, which must end at a gap or an indicator. -/
def anchorName? (c : Cursor) : Option (String × Cursor) :=
  let (name, c) := c.takeWhile isNameChar
  let ended := c.gapAt 0 ||
    c.rest.head?.any (· ∈ ['?', ':', ',', ']', '\x7d', '%', '@', Char.ofNat 0x60])
  if name.isEmpty || !ended then none else some (String.ofList name, c)

/-- Closes all blocks in front of a directive or a document marker. -/
def closeDocument (r : TokenReader) : Option TokenReader := do
  let r ← (r.closeBlocks (-1)).dropCandidate
  return { r with keyAllowed := false }

def openFlow (r : TokenReader) (t : Token) : Option TokenReader := do
  let r ← r.saveCandidate
  return { (r.skip 1).push t with candidates := none :: r.candidates, keyAllowed := true }

def closeFlow (r : TokenReader) (t : Token) : Option TokenReader := do
  let r ← r.dropCandidate
  let candidates := if r.inFlow then r.candidates.drop 1 else r.candidates
  return { (r.skip 1).push t with candidates, keyAllowed := false }

/-- A comma between the entries of a flow collection. -/
def flowEntry (r : TokenReader) : Option TokenReader := do
  let r ← r.dropCandidate
  return { (r.skip 1).push .flowEntry with keyAllowed := true }

/-- A dash in front of the entry of a block sequence. -/
def blockEntry (r : TokenReader) : Option TokenReader :=
  if !r.inFlow && !r.keyAllowed then none
  else do
    let r := r.openBlock r.cursor.column r.tokens.size .blockSequenceStart
    let r ← r.dropCandidate
    return { (r.skip 1).push .blockEntry with keyAllowed := true }

def explicitKey (r : TokenReader) : Option TokenReader :=
  if !r.inFlow && !r.keyAllowed then none
  else do
    let r := r.openBlock r.cursor.column r.tokens.size .blockMappingStart
    let r ← r.dropCandidate
    return { (r.skip 1).push .key with keyAllowed := !r.inFlow }

/-- A colon: it makes a key of the candidate, or follows a key that was marked as one. -/
def valueIndicator (r : TokenReader) : Option TokenReader :=
  match r.candidates with
  | some k :: rest =>
    let r := (r.insert k.position .key).openBlock k.column k.position .blockMappingStart
    some { (r.skip 1).push .value with candidates := none :: rest, keyAllowed := false }
  | _ =>
    if !r.inFlow && !r.keyAllowed then none
    else
      let r := r.openBlock r.cursor.column r.tokens.size .blockMappingStart
      some { (r.skip 1).push .value with keyAllowed := !r.inFlow }

/-- A token that may start a key and after which none may start. -/
def keyToken (r : TokenReader) (t : Token) (after : Cursor) : TokenReader :=
  { r.push t with cursor := after, keyAllowed := false }

/-- A plain scalar. When it ends on a later line, a key may start there. -/
def plainToken (r : TokenReader) : Option TokenReader := do
  let r ← r.saveCandidate
  let p ← plainScalar? r.inFlow (r.indent + 1).toNat r.cursor
  return { r.push (.scalar (String.ofList p.text) true) with
           cursor := p.after, keyAllowed := p.crosses }

def blockToken (r : TokenReader) (literal : Bool) : Option TokenReader := do
  let r ← r.dropCandidate
  let (text, after) ← blockScalar? literal r.indent r.cursor
  return { r.push (.scalar (String.ofList text) false) with cursor := after, keyAllowed := true }

/-- The characters with a meaning of their own at the start of a token. -/
def isIndicator (c : Char) : Bool :=
  c ∈ ['-', '?', ':', ',', '[', ']', '\x7b', '\x7d', '#', '&', '*', '!', '|', '>', '\'', '"',
    '%', '@', Char.ofNat 0x60]

/-- Whether a plain scalar starts with a character that a second one follows. -/
def startsPlain (inFlow : Bool) (x : Char) (next : Option Char) : Bool :=
  !(isBlank x || isBreak x || isIndicator x)
    || (x = '-' && !next.any isBlank)
    || (!inFlow && (x = '?' || x = ':') && !next.all fun y => isBlank y || isBreak y)

/-- Reads the token at the place, which starts with the given character. -/
def readToken (r : TokenReader) (x : Char) : Option TokenReader :=
  let c := r.cursor
  let gap := c.gapAt 1
  if c.column = 0 && x = '%' then do
    let r ← r.closeDocument
    let (t, after) ← directive? c.skip
    return { r.push t with cursor := after }
  else if c.onMarker '-' then do return ((← r.closeDocument).push .documentStart).skip 3
  else if c.onMarker '.' then do return ((← r.closeDocument).push .documentEnd).skip 3
  else if x = '[' then r.openFlow .flowSequenceStart
  else if x = '\x7b' then r.openFlow .flowMappingStart
  else if x = ']' then r.closeFlow .flowSequenceEnd
  else if x = '\x7d' then r.closeFlow .flowMappingEnd
  else if x = ',' then r.flowEntry
  else if x = '-' && gap then r.blockEntry
  else if x = '?' && (r.inFlow || gap) then r.explicitKey
  else if x = ':' && (r.inFlow || gap) then r.valueIndicator
  else if x = '*' then do
    let r ← r.saveCandidate
    let (name, after) ← anchorName? c.skip
    return r.keyToken (.alias name) after
  else if x = '&' then do
    let r ← r.saveCandidate
    let (name, after) ← anchorName? c.skip
    return r.keyToken (.anchor name) after
  else if x = '!' then do
    let r ← r.saveCandidate
    let (t, after) ← tag? r.inFlow c
    return r.keyToken t after
  else if x = '|' && !r.inFlow then r.blockToken true
  else if x = '>' && !r.inFlow then r.blockToken false
  else if x = '\'' || x = '"' then do
    let r ← r.saveCandidate
    let (text, after) ← quotedScalar? (x = '\'') c
    return r.keyToken (.scalar (String.ofList text) false) after
  else if startsPlain r.inFlow x (c.at? 1) then r.plainToken
  else none

/-- Reads all tokens. The fuel bounds their number. -/
def readAll : Nat → TokenReader → Option (Array Token)
  | 0, _ => none
  | fuel + 1, r => do
    let r ← r.toNextToken.dropStale
    let r := r.closeBlocks r.cursor.column
    match r.cursor.rest.head? with
    | none =>
      let r ← (r.closeBlocks (-1)).dropCandidate
      return r.tokens
    | some x => readAll fuel (← r.readToken x)

end TokenReader

def tokens? (text : List Char) : Option (List Token) :=
  if text.all isAllowed then
    (TokenReader.readAll (text.length + 1) { cursor := { rest := text } }).map (·.toList)
  else none

end NetworkRollout.Yaml
