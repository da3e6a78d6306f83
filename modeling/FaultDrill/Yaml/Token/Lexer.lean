import FaultDrill.Yaml.Token.Block
import FaultDrill.Yaml.Token.Plain
import FaultDrill.Yaml.Token.Quoted
import FaultDrill.Yaml.Token.Tag

/-!
From YAML text to tokens. Two things are known only later than they are needed.
That a scalar is a key shows at the colon behind it, so the place of a possible
key is remembered and the key token is put there afterwards. That a collection
has ended shows at the first line indented less, so the indentations of the open
collections are kept on a stack.
-/

namespace FaultDrill.Yaml

/-- A place at which a key may have started. -/
structure PossibleKey where
  /-- How many tokens come before it. -/
  position : Nat
  /-- Nothing but a key can stand there. -/
  isRequired : Bool
  index : Nat
  line : Nat
  column : Nat

structure Lexer where
  cursor : Cursor
  /-- The tokens found so far, the last one first. -/
  found : List Token
  /-- The indentations of the open block collections, the innermost first. -/
  indents : List Nat
  /-- A key may start at the next token. -/
  keyAllowed : Bool
  /-- The possible key outside all brackets. -/
  outerKey : Option PossibleKey
  /-- The possible keys inside the open brackets, the innermost first. -/
  innerKeys : List (Option PossibleKey)

namespace Lexer

def ofText (text : List Char) : Lexer :=
  { cursor := .ofText text, found := [], indents := [], keyAllowed := true, outerKey := none,
    innerKeys := [] }

def inFlow (lexer : Lexer) : Bool := !lexer.innerKeys.isEmpty

def indent (lexer : Lexer) : Option Nat := lexer.indents.head?

def emit (lexer : Lexer) (token : Token) : Lexer := { lexer with found := token :: lexer.found }

/-- Puts a token in front of all tokens from a position on. -/
def insertAt (lexer : Lexer) (position : Nat) (token : Token) : Lexer :=
  let later := lexer.found.length - position
  { lexer with found := lexer.found.take later ++ token :: lexer.found.drop later }

/-! Possible keys -/

def possibleKey (lexer : Lexer) : Option PossibleKey :=
  match lexer.innerKeys with
  | key :: _ => key
  | [] => lexer.outerKey

def setPossibleKey (lexer : Lexer) (key : Option PossibleKey) : Lexer :=
  match lexer.innerKeys with
  | _ :: rest => { lexer with innerKeys := key :: rest }
  | [] => { lexer with outerKey := key }

/-- Gives up the possible key; one that is required may not be given up. -/
def dropKey (lexer : Lexer) : Option Lexer :=
  match lexer.possibleKey with
  | some key => if key.isRequired then none else some (lexer.setPossibleKey none)
  | none => some lexer

/-- Remembers that a key may start here. -/
def saveKey (lexer : Lexer) : Option Lexer := do
  if lexer.keyAllowed then
    let lexer ← lexer.dropKey
    let cursor := lexer.cursor
    some (lexer.setPossibleKey (some
      { position := lexer.found.length
        isRequired := !lexer.inFlow && lexer.indent == some cursor.column
        index := cursor.index
        line := cursor.line
        column := cursor.column }))
  else some lexer

/-- A key ends on the line it started on, within 1024 characters. -/
def isFresh (key : PossibleKey) (cursor : Cursor) : Bool :=
  key.line = cursor.line && cursor.index ≤ key.index + 1024

/-! Indentation -/

/-- Opens a block collection if the column is beyond the indentation. Its start
token goes to a position among the tokens found. -/
def openBlock (lexer : Lexer) (column position : Nat) (token : Token) : Lexer :=
  if !lexer.inFlow && lexer.indent.all (· < column) then
    { lexer.insertAt position token with indents := column :: lexer.indents }
  else lexer

/-- Closes the block collections that `ended` says are over. -/
def closeBlocks (lexer : Lexer) (ended : Nat → Bool) : Lexer :=
  if lexer.inFlow then lexer
  else
    let closed := lexer.indents.takeWhile ended
    { lexer with
      found := List.replicate closed.length Token.blockEnd ++ lexer.found
      indents := lexer.indents.drop closed.length }

/-! Tokens -/

/-- Skips blanks, comments and line breaks. Outside brackets a tab may not stand
where a key could start, and a new line allows one. -/
def skipSpace : Nat → Lexer → Lexer
  | 0, lexer => lexer
  | fuel + 1, lexer =>
      let cursor := lexer.cursor
      let cursor := if cursor.index = 0 && cursor.sees '\ufeff' 0 then cursor.skip 1 else cursor
      let tabAllowed := lexer.inFlow || !lexer.keyAllowed
      let cursor := cursor.skipWhile fun char => char = ' ' || (tabAllowed && char = '\t')
      let cursor := cursor.skipComment
      if cursor.onBreak then
        skipSpace fuel
          { lexer with
            cursor := cursor.takeBreak.2
            keyAllowed := lexer.keyAllowed || !lexer.inFlow }
      else { lexer with cursor := cursor }

/-- Leaves all block collections, as a directive or a document marker does. -/
def leaveBlocks (lexer : Lexer) : Option Lexer := do
  let lexer ← (lexer.closeBlocks fun _ => true).dropKey
  some { lexer with keyAllowed := false }

/-- Emits a token of some characters. -/
def emitSkip (lexer : Lexer) (count : Nat) (token : Token) : Lexer :=
  { lexer.emit token with cursor := lexer.cursor.skip count }

def openBracket (lexer : Lexer) (token : Token) : Option Lexer := do
  let lexer ← lexer.saveKey
  let lexer := { lexer with innerKeys := none :: lexer.innerKeys, keyAllowed := true }
  some (lexer.emitSkip 1 token)

def closeBracket (lexer : Lexer) (token : Token) : Option Lexer := do
  let lexer ← lexer.dropKey
  let lexer := { lexer with innerKeys := lexer.innerKeys.drop 1, keyAllowed := false }
  some (lexer.emitSkip 1 token)

def scanFlowEntry (lexer : Lexer) : Option Lexer := do
  let lexer ← lexer.dropKey
  some ({ lexer with keyAllowed := true }.emitSkip 1 .flowEntry)

/-- A block collection may start here only where a key could. -/
def openBlockHere (lexer : Lexer) (token : Token) : Option Lexer :=
  if lexer.inFlow then some lexer
  else if lexer.keyAllowed then
    some (lexer.openBlock lexer.cursor.column lexer.found.length token)
  else none

def scanBlockEntry (lexer : Lexer) : Option Lexer := do
  let lexer ← lexer.openBlockHere .blockSequenceStart
  let lexer ← lexer.dropKey
  some ({ lexer with keyAllowed := true }.emitSkip 1 .blockEntry)

def scanKey (lexer : Lexer) : Option Lexer := do
  let lexer ← lexer.openBlockHere .blockMappingStart
  let lexer ← lexer.dropKey
  some ({ lexer with keyAllowed := !lexer.inFlow }.emitSkip 1 .key)

/-- The colon. If a key was possible up to here, it was one. -/
def scanValue (lexer : Lexer) : Option Lexer := do
  match lexer.possibleKey with
  | some key =>
      if isFresh key lexer.cursor then
        let lexer := (lexer.insertAt key.position .key).openBlock key.column key.position
          .blockMappingStart
        let lexer := { lexer.setPossibleKey none with keyAllowed := false }
        some (lexer.emitSkip 1 .value)
      else if key.isRequired then none
      else withoutKey (lexer.setPossibleKey none)
  | none => withoutKey lexer
where
  withoutKey (lexer : Lexer) : Option Lexer := do
    let lexer ← lexer.openBlockHere .blockMappingStart
    some ({ lexer with keyAllowed := !lexer.inFlow }.emitSkip 1 .value)

/-- A token that may be a key. -/
def scanKeyable (lexer : Lexer) (scan : Cursor → Option (Token × Cursor)) : Option Lexer := do
  let lexer ← lexer.saveKey
  let (token, cursor) ← scan lexer.cursor
  some { lexer.emit token with cursor := cursor, keyAllowed := false }

def scanPlainToken (lexer : Lexer) : Option Lexer := do
  let lexer ← lexer.saveKey
  let margin := (lexer.indent.map (· + 1)).getD 0
  let (text, leftLine, cursor) ← scanPlain lexer.inFlow margin lexer.cursor
  some { lexer.emit (.scalar text .plain) with cursor := cursor, keyAllowed := leftLine }

def scanBlockToken (lexer : Lexer) (isLiteral : Bool) : Option Lexer := do
  let lexer ← lexer.dropKey
  let (text, cursor) ← scanBlock isLiteral lexer.indent lexer.cursor
  let style := if isLiteral then ScalarStyle.literal else .folded
  some { lexer.emit (.scalar text style) with cursor := cursor, keyAllowed := true }

def scanQuotedToken (lexer : Lexer) (isSingle : Bool) : Option Lexer :=
  let style := if isSingle then ScalarStyle.singleQuoted else .doubleQuoted
  lexer.scanKeyable fun cursor =>
    (scanQuoted isSingle cursor).map fun (text, cursor) => (.scalar text style, cursor)

/-- Characters with which no plain scalar starts. -/
def isIndicator (char : Char) : Bool :=
  "-?:,[]\x7b\x7d#&*!|>\"%@\x60".toList.contains char || char.toNat = 39

def startsPlain (inFlow : Bool) (cursor : Cursor) : Bool :=
  (cursor.peek 0).any fun char =>
    !(isIndicator char || isBlank char) || (char = '-' && !(cursor.peek 1).any isBlank) ||
      (!inFlow && (char = '?' || char = ':') && !cursor.blankOrEnd 1)

/-- The token that starts at a character. -/
def scanToken (lexer : Lexer) (char : Char) : Option Lexer :=
  let cursor := lexer.cursor
  let standsAlone := lexer.inFlow || cursor.blankOrEnd 1
  if cursor.column = 0 && char = '%' then do
    let lexer ← lexer.leaveBlocks
    let (token, cursor) ← scanDirective lexer.cursor
    some { lexer.emit token with cursor := cursor }
  else if cursor.seesMarker '-' then (lexer.leaveBlocks).map (·.emitSkip 3 .documentStart)
  else if cursor.seesMarker '.' then (lexer.leaveBlocks).map (·.emitSkip 3 .documentEnd)
  else if char = '[' then lexer.openBracket .flowSequenceStart
  else if char = '\x7b' then lexer.openBracket .flowMappingStart
  else if char = ']' then lexer.closeBracket .flowSequenceEnd
  else if char = '\x7d' then lexer.closeBracket .flowMappingEnd
  else if char = ',' then lexer.scanFlowEntry
  else if char = '-' && cursor.blankOrEnd 1 then lexer.scanBlockEntry
  else if char = '?' && standsAlone then lexer.scanKey
  else if char = ':' && standsAlone then lexer.scanValue
  else if char = '*' then lexer.scanKeyable fun cursor =>
    (scanAnchor cursor).map fun (name, cursor) => (.alias name, cursor)
  else if char = '&' then lexer.scanKeyable fun cursor =>
    (scanAnchor cursor).map fun (name, cursor) => (.anchor name, cursor)
  else if char = '!' then lexer.scanKeyable (scanTag lexer.inFlow)
  else if char = '|' && !lexer.inFlow then lexer.scanBlockToken true
  else if char = '>' && !lexer.inFlow then lexer.scanBlockToken false
  else if char.toNat = 39 then lexer.scanQuotedToken true
  else if char = '"' then lexer.scanQuotedToken false
  else if startsPlain lexer.inFlow cursor then lexer.scanPlainToken
  else none

/-- The end of the text ends every block. -/
def finish (lexer : Lexer) : Option (List Token) := do
  let lexer ← lexer.leaveBlocks
  some lexer.found.reverse

/-- All tokens from here on. Each takes at least one character. -/
def run : Nat → Lexer → Option (List Token)
  | 0, _ => none
  | fuel + 1, lexer =>
      let lexer := lexer.skipSpace (lexer.cursor.rest.length + 1)
      let lexer := lexer.closeBlocks (lexer.cursor.column < ·)
      match lexer.cursor.peek 0 with
      | none => lexer.finish
      | some char => (lexer.scanToken char).bind (run fuel)

end Lexer

/-- The tokens of a text. A mark of the byte order at its start is dropped. -/
def tokens? (text : String) : Option (List Token) :=
  let chars :=
    match text.toList with
    | '\ufeff' :: rest => rest
    | chars => chars
  if chars.all isAllowed then (Lexer.ofText chars).run (chars.length + 1) else none

end FaultDrill.Yaml
