import Landmarks.Encoding.Utf8
import Landmarks.Yaml.ScalarText

/-!
# Tokens of a YAML text

* `Token` : what a text consists of. The structure of block collections is made explicit: a deeper
  indent opens one, a shallower indent closes it.
* `Scanner` : a place in a text with what decides which tokens may come next. A word may turn out to
  be a key when a colon follows it; the place of its token is kept until then.
* `Tokens` : the tokens of a text up to its first fault; `Tokens.ofText` finds them.
-/

namespace Landmarks.Yaml

/-- A token. -/
inductive Token
  | yamlDirective (major : Nat)
  | tagDirective (handle : List Char) (stem : List Char)
  | otherDirective
  | documentStart
  | documentEnd
  | blockSequence
  | blockMapping
  | blockEnd
  | flowSequence
  | flowSequenceEnd
  | flowMapping
  | flowMappingEnd
  | flowEntry
  | blockEntry
  | key
  | value
  | alias (name : List Char)
  | anchor (name : List Char)
  | tag (handle : Option (List Char)) (suffix : List Char)
  | scalar (text : Str) (plain : Bool)
  | streamEnd
  deriving DecidableEq, Repr

/-- The tokens of a text that are settled before its first fault, and the fault, if there is one. -/
structure Tokens where
  ready : List Token
  fault : Option Error := none
  deriving Repr

/-- A word that becomes a key if a colon follows it on its line. -/
structure PossibleKey where
  tokenNumber : Nat
  required : Bool
  index : Nat
  line : Nat
  column : Nat

/-- The state of the scan. `keys` has at most one possible key a level of flow collections. -/
structure Scanner where
  cursor : Cursor
  flowLevel : Nat := 0
  indent : Int := -1
  indents : List Int := []
  keyAllowed : Bool := true
  keys : List (Nat × PossibleKey) := []
  tokens : Array Token := #[]

namespace Scanner

/-- With one more token. -/
def push (s : Scanner) (t : Token) : Scanner := { s with tokens := s.tokens.push t }

/-- Whether the scan is inside a flow collection. -/
def inFlow (s : Scanner) : Bool := s.flowLevel != 0

/-! ## Possible keys -/

/-- Without the possible keys that are too far back; a key that had to come is missed. -/
def dropStale (s : Scanner) : Except Error Scanner :=
  let isStale (k : PossibleKey) : Bool := k.line != s.cursor.line || s.cursor.index - k.index > 1024
  if s.keys.any fun (_, k) => isStale k && k.required then .error .malformed
  else .ok { s with keys := s.keys.filter fun (_, k) => !isStale k }

/-- Without the possible key of the current level. -/
def dropKey (s : Scanner) : Except Error Scanner :=
  if s.keys.any fun (level, k) => level == s.flowLevel && k.required then .error .malformed
  else .ok { s with keys := s.keys.filter fun (level, _) => level != s.flowLevel }

/-- The next token may turn out to be a key. -/
def saveKey (s : Scanner) : Except Error Scanner :=
  if s.keyAllowed then do
    let required := !s.inFlow && s.indent == (s.cursor.column : Int)
    let s ← s.dropKey
    let k : PossibleKey :=
      ⟨s.tokens.size, required, s.cursor.index, s.cursor.line, s.cursor.column⟩
    return { s with keys := (s.flowLevel, k) :: s.keys }
  else .ok s

/-! ## Indents -/

/-- Close the block collections that are deeper than a column. -/
def unwindTo (column : Int) : (fuel : Nat) → Scanner → Scanner
  | 0, s => s
  | fuel + 1, s =>
    if !s.inFlow && s.indent > column then
      unwindTo column fuel
        { s with indent := s.indents.headD (-1), indents := s.indents.tail,
                 tokens := s.tokens.push .blockEnd }
    else s

/-- Close the block collections that are deeper than a column. -/
def unwind (s : Scanner) (column : Int) : Scanner := unwindTo column (s.indents.length + 1) s

/-- Open a block collection at a column if it is deeper than the current one; the token goes before
the token with the given number. -/
def openBlock (s : Scanner) (column : Nat) (t : Token) (place : Nat) : Scanner :=
  if s.indent < (column : Int) then
    { s with indents := s.indent :: s.indents, indent := column
             tokens := s.tokens.insertIdxIfInBounds place t }
  else s

/-! ## Directives, names and tags -/

/-- A number of a version. -/
def versionNumber (c : Cursor) : Except Error (Nat × Cursor) :=
  let (ds, c) := c.span fun ch => '0' ≤ ch && ch ≤ '9'
  if ds.isEmpty then .error .malformed
  else .ok (ds.foldl (fun n d => 10 * n + (d.toNat - 0x30)) 0, c)

/-- The handle of a tag: `!`, `!!` or a name between exclamation marks. -/
def tagHandle (c : Cursor) : Except Error (List Char × Cursor) :=
  if c.peek != '!' then .error .malformed
  else if c.peekAt 1 == ' ' then .ok (['!'], c.next)
  else
    let (name, c) := c.next.span isNameChar
    if c.peek == '!' then .ok ('!' :: name ++ ['!'], c.next) else .error .malformed

/-- Bytes that are escaped by percent signs. -/
def uriEscapes : (fuel : Nat) → Cursor → Except Error (List Utf8.Byte × Cursor)
  | 0, c => .ok ([], c)
  | fuel + 1, c =>
    if c.peek == '%' then
      match Text.hexNumber? (c.next.rest.take 2) with
      | some n =>
        if c.rest.length < 3 then .error .malformed
        else do
          let (more, c) ← uriEscapes fuel (c.advance 3)
          return (n.toUInt8 :: more, c)
      | none => .error .malformed
    else .ok ([], c)

/-- The characters of the rest of a tag. -/
def isUriChar (ch : Char) : Bool := isNameChar ch || among ";/?:@&=+$,.!~*'()[]%" ch

/-- The rest of a tag, possibly empty. -/
def uriText : (fuel : Nat) → Cursor → Except Error (List Char × Cursor)
  | 0, c => .ok ([], c)
  | fuel + 1, c =>
    if c.peek == '%' then do
      let (bytes, c) ← uriEscapes (c.rest.length + 1) c
      match Utf8.decode bytes with
      | .ok text =>
        let (more, c) ← uriText fuel c
        return (text ++ more, c)
      | .error _ => .error .malformed
    else if isUriChar c.peek then do
      let ch := c.peek
      let (more, c) ← uriText fuel c.next
      return (ch :: more, c)
    else .ok ([], c)

/-- The rest of a tag. -/
def tagUri (c : Cursor) : Except Error (List Char × Cursor) := do
  let (text, after) ← uriText (c.rest.length + 1) c
  if after.index == c.index then .error .malformed else return (text, after)

/-- A directive, from its percent sign. -/
def directive (c : Cursor) : Except Error (Token × Cursor) := do
  let (name, c) := c.next.span isNameChar
  if name.isEmpty || !endsToken c.peek then .error .malformed
  else
    let (t, c) ←
      if name == "YAML".toList then do
        let (major, c) ← versionNumber (c.skip (· == ' '))
        if c.peek != '.' then .error .malformed
        else
          let (_, c) ← versionNumber c.next
          if endsToken c.peek then .ok (Token.yamlDirective major, c) else .error .malformed
      else if name == "TAG".toList then do
        let (handle, c) ← tagHandle (c.skip (· == ' '))
        if c.peek != ' ' then .error .malformed
        else
          let (stem, c) ← tagUri (c.skip (· == ' '))
          if endsToken c.peek then .ok (Token.tagDirective handle stem, c) else .error .malformed
      else .ok (Token.otherDirective, c.skip (!isBreak ·))
    return (t, ← ignoredLine c)

/-- The name of an anchor or an alias, from its sign. -/
def anchorName (c : Cursor) : Except Error (List Char × Cursor) :=
  let (name, c) := c.next.span isNameChar
  if name.isEmpty || !(endsWord c.peek || among "?:,]\x7d%@\x60" c.peek) then .error .malformed
  else .ok (name, c)

/-- A tag, from its exclamation mark. -/
def tagToken (c : Cursor) : Except Error (Token × Cursor) := do
  let second := c.peekAt 1
  let (t, c) ←
    if second == '<' then do
      let (suffix, c) ← tagUri (c.advance 2)
      if c.peek == '>' then .ok (Token.tag none suffix, c.next) else .error .malformed
    else if endsWord second then .ok (Token.tag none ['!'], c.next)
    else
      let word := c.next.rest.takeWhile (!endsToken ·)
      if word.contains '!' then do
        let (handle, c) ← tagHandle c
        let (suffix, c) ← tagUri c
        .ok (Token.tag (some handle) suffix, c)
      else do
        let (suffix, c) ← tagUri c.next
        .ok (Token.tag (some ['!']) suffix, c)
  if endsToken c.peek then return (t, c) else .error .malformed

/-! ## Tokens -/

/-- Past blanks, comments and line breaks; behind a line break a key may come. -/
def skipToToken : (fuel : Nat) → Scanner → Scanner
  | 0, s => s
  | fuel + 1, s =>
    let c := (s.cursor.skip (· == ' ')).skipComment
    if isBreak c.peek then
      skipToToken fuel
        { s with cursor := c.lineBreak.2, keyAllowed := s.keyAllowed || !s.inFlow }
    else { s with cursor := c }

/-- With the cursor past `n` characters. -/
def forward (s : Scanner) (n : Nat) : Scanner := { s with cursor := s.cursor.advance n }

/-- The end of all block collections, before a directive, a document mark or the end. -/
def closeAll (s : Scanner) : Except Error Scanner := do
  let s ← (s.unwind (-1)).dropKey
  return { s with keyAllowed := false }

/-- The start of a flow collection. -/
def openFlow (s : Scanner) (t : Token) : Except Error Scanner := do
  let s ← s.saveKey
  return ({ s with flowLevel := s.flowLevel + 1, keyAllowed := true }.push t).forward 1

/-- The end of a flow collection. -/
def closeFlow (s : Scanner) (t : Token) : Except Error Scanner :=
  if s.inFlow then do
    let s ← s.dropKey
    return ({ s with flowLevel := s.flowLevel - 1, keyAllowed := false }.push t).forward 1
  else .error .malformed

/-- An entry of a block sequence or an explicit key; in a block it may open the collection. -/
def blockIndicator (s : Scanner) (opening t : Token) (keyAllowed : Bool) : Except Error Scanner := do
  if !s.inFlow && !s.keyAllowed then .error .malformed
  else
    let s := if s.inFlow then s else s.openBlock s.cursor.column opening s.tokens.size
    let s ← { s with keyAllowed }.dropKey
    return (s.push t).forward 1

/-- The colon before a value. A possible key before it becomes one. -/
def valueIndicator (s : Scanner) : Except Error Scanner :=
  match s.keys.find? fun (level, _) => level == s.flowLevel with
  | some (_, k) =>
    let s :=
      { s with keys := s.keys.filter fun (level, _) => level != s.flowLevel
               tokens := s.tokens.insertIdxIfInBounds k.tokenNumber .key }
    let s := if s.inFlow then s else s.openBlock k.column .blockMapping k.tokenNumber
    .ok (({ s with keyAllowed := false }.push .value).forward 1)
  | none => s.blockIndicator .blockMapping .value (!s.inFlow)

/-- A word that may be a key: an alias, an anchor, a tag or a scalar on one line. -/
def wordToken (s : Scanner) (read : Cursor → Except Error (Token × Cursor)) :
    Except Error Scanner := do
  let s ← s.saveKey
  let (t, c) ← read s.cursor
  return { s with keyAllowed := false, cursor := c }.push t

/-- Whether a plain scalar can start here. -/
def startsPlain (s : Scanner) : Bool :=
  let ch := s.cursor.peek
  !(endsWord ch || among "-?:,[]\x7b\x7d#&*!|>'\"%@\x60" ch) ||
    (!endsWord (s.cursor.peekAt 1) && (ch == '-' || (!s.inFlow && (ch == '?' || ch == ':'))))

/-- A plain scalar. -/
def plainToken (s : Scanner) : Except Error Scanner := do
  let s ← s.saveKey
  let p := plainScalar s.inFlow s.indent s.cursor
  return { s with keyAllowed := p.brokeLine, cursor := p.cursor }.push (.scalar (.ofChars p.text) true)

/-- One more token. The answer says whether it was the end of the text. -/
def step (s : Scanner) : Except Error (Bool × Scanner) := do
  let s := skipToToken (s.cursor.rest.length + 1) s
  let s ← s.dropStale
  let s := s.unwind s.cursor.column
  let c := s.cursor
  let ch := c.peek
  let further (r : Except Error Scanner) : Except Error (Bool × Scanner) := do return (false, ← r)
  if c.rest.isEmpty then return (true, (← s.closeAll).push .streamEnd)
  else if ch == '%' && c.column == 0 then
    further do
      let s ← s.closeAll
      let (t, c) ← directive s.cursor
      return { s with cursor := c }.push t
  else if c.column == 0 && c.atMark "---" then
    further do return ((← s.closeAll).push .documentStart).forward 3
  else if c.column == 0 && c.atMark "..." then
    further do return ((← s.closeAll).push .documentEnd).forward 3
  else if ch == '[' then further (s.openFlow .flowSequence)
  else if ch == '{' then further (s.openFlow .flowMapping)
  else if ch == ']' then further (s.closeFlow .flowSequenceEnd)
  else if ch == '}' then further (s.closeFlow .flowMappingEnd)
  else if ch == ',' then
    further do
      let s ← { s with keyAllowed := true }.dropKey
      return (s.push .flowEntry).forward 1
  else if ch == '-' && endsWord (c.peekAt 1) then
    further (s.blockIndicator .blockSequence .blockEntry true)
  else if ch == '?' && (s.inFlow || endsWord (c.peekAt 1)) then
    further (s.blockIndicator .blockMapping .key (!s.inFlow))
  else if ch == ':' && (s.inFlow || endsWord (c.peekAt 1)) then further s.valueIndicator
  else if ch == '*' then
    further <| s.wordToken fun c => do
      let (name, c) ← anchorName c
      return (.alias name, c)
  else if ch == '&' then
    further <| s.wordToken fun c => do
      let (name, c) ← anchorName c
      return (.anchor name, c)
  else if ch == '!' then further (s.wordToken tagToken)
  else if (ch == '|' || ch == '>') && !s.inFlow then
    further do
      let s ← { s with keyAllowed := true }.dropKey
      let (text, c) ← blockScalar s.indent s.cursor
      return { s with cursor := c }.push (.scalar (.ofChars text) false)
  else if ch == '\x27' || ch == '"' then
    further <| s.wordToken fun c => do
      let (text, c) ← quotedScalar c
      return (.scalar text false, c)
  else if s.startsPlain then further s.plainToken
  else .error .malformed

/-- The tokens before a fault. What a word that may still become a key stands for is not settled, nor
is anything behind it. -/
def settled (s : Scanner) (e : Error) : Tokens :=
  let keys := match s.dropStale with
    | .ok s => s.keys
    | .error _ => []
  let size := keys.foldl (fun n (_, k) => min n k.tokenNumber) s.tokens.size
  ⟨s.tokens.toList.take size, some e⟩

/-- All tokens. Each further one takes something off the text, so the length of the text is fuel
enough. -/
def run : (fuel : Nat) → Scanner → Tokens
  | 0, s => s.settled .malformed
  | fuel + 1, s =>
    match s.step with
    | .ok (true, s) => ⟨s.tokens.toList, none⟩
    | .ok (false, s) => run fuel s
    | .error e => s.settled e

end Scanner

/-- The tokens of a text. A byte order mark at its start does not belong to it. -/
def Tokens.ofText (cs : List Char) : Tokens :=
  if cs.all isAllowed then
    let start : Cursor := ⟨cs, 0, 0, 0⟩
    let cursor := if start.peek == byteOrderMark then start.next else start
    Scanner.run (cs.length + 1) { cursor }
  else ⟨[], some .malformed⟩

end Landmarks.Yaml
