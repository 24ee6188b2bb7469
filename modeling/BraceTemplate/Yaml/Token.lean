import BraceTemplate.Text.Utf8
import BraceTemplate.Yaml.Scalar

namespace BraceTemplate.Yaml

-- The pieces of a document. `fault` stands where the document cannot be read on.
inductive Token where
  | version (major : Nat)
  | tagHandle (handle lead : Text)
  | otherDirective
  | documentStart
  | documentEnd
  | streamEnd
  | blockSequenceStart
  | blockMappingStart
  | blockEnd
  | flowSequenceStart
  | flowSequenceEnd
  | flowMappingStart
  | flowMappingEnd
  | blockEntry
  | flowEntry
  | key
  | value
  | alias (name : Text)
  | anchor (name : Text)
  | tag (handle : Option Text) (suffix : Text)
  | scalar (text : Text) (plain : Bool)
  | fault (f : Fault)
  deriving DecidableEq, Inhabited

namespace Walk

def name : Walk Text := do
  let s ← takeWhile isNameChar
  if s.isEmpty then fail .malformed else pure s

-- The name after the sign of an anchor or an alias.
def anchorName : Walk Text := do
  skip 1
  let s ← name
  expect fun c => isGapOrEnd c || "?:,]\x7d%@\x60".toList.contains c
  pure s

-- Bytes written as percent signs with two digits each.
def uriBytes : Text → Option (List UInt8)
  | '%' :: a :: b :: rest => do
    let high ← hexValue? a
    let low ← hexValue? b
    return UInt8.ofNat (high * 16 + low) :: (← uriBytes rest)
  | '%' :: _ => none
  | _ => some []

def isUriChar (c : Char) : Bool :=
  c.isAlphanum || "-;/?:@&=+$,_.!~*'()[]%".toList.contains c

-- The characters that percent signs stand for.
def uriEscapes : Walk Text := do
  match uriBytes (← here).rest with
  | none => fail .malformed
  | some bytes =>
    match Utf8.decode? bytes with
    | none => fail .malformed
    | some s =>
      skip (3 * bytes.length)
      pure s

def uriFrom : (fuel : Nat) → Walk Text
  | 0 => pure []
  | fuel + 1 => do
    let c ← peek
    if c == '%' then
      let s ← uriEscapes
      return s ++ (← uriFrom fuel)
    else if isUriChar c then
      skip 1
      return c :: (← uriFrom fuel)
    else pure []

def uri : Walk Text := do
  if isUriChar (← peek) then uriFrom (← turns) else fail .malformed

-- A handle: one sign, or a word between two signs.
def handle : Walk Text := do
  expect (· == '!')
  if (← peekAt 1) == ' ' then take 1
  else
    skip 1
    let s ← takeWhile isNameChar
    expect (· == '!')
    skip 1
    pure ('!' :: s ++ ['!'])

-- Whether a second sign follows before the next space.
def hasHandle (s : Text) : Bool :=
  (s.takeWhile fun c => !isSpaceOrEnd c).contains '!'

def tag : Walk Token := do
  let c ← peekAt 1
  let found ←
    if c == '<' then do
      skip 2
      let s ← uri
      expect (· == '>')
      skip 1
      pure (Token.tag none s)
    else if isGapOrEnd c then do
      skip 1
      pure (Token.tag none ['!'])
    else if hasHandle ((← here).rest.drop 1) then do
      let h ← handle
      pure (Token.tag (some h) (← uri))
    else do
      skip 1
      pure (Token.tag (some ['!']) (← uri))
  expect isSpaceOrEnd
  pure found

def number : Walk Nat := do
  let digits ← takeWhile Char.isDigit
  if digits.isEmpty then fail .malformed
  else pure (digits.foldl (fun n d => n * 10 + (d.toNat - 48)) 0)

def directive : Walk Token := do
  skip 1
  let word ← name
  expect isSpaceOrEnd
  let found ←
    if word == "YAML".toList then do
      skipSpaces
      let major ← number
      expect (· == '.')
      skip 1
      let _ ← number
      expect isSpaceOrEnd
      pure (Token.version major)
    else if word == "TAG".toList then do
      skipSpaces
      let h ← handle
      expect (· == ' ')
      skipSpaces
      let lead ← uri
      expect isSpaceOrEnd
      pure (Token.tagHandle h lead)
    else do
      let _ ← takeWhile (!isBreak ·)
      pure Token.otherDirective
  lineRest
  pure found

end Walk

end BraceTemplate.Yaml
