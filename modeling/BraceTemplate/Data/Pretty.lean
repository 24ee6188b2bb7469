import BraceTemplate.Data.Arrange
import BraceTemplate.Data.Datum

namespace BraceTemplate

-- A value laid out for printing: each node knows its text on one line, and how it may be broken.
inductive Layout where
  | solid (line : Text)
  | text (line : Text) (s : Text)
  | bytes (line : Text) (bs : List UInt8)
  | group (line opening closing : Text) (shift : Nat) (items : List Layout)
  | mapping (line : Text) (entries : List (Text × Layout))
  | wrapped (line opening : Text) (inner : Layout)
  deriving Inhabited

namespace Layout

def line : Layout → Text
  | .solid l => l
  | .text l _ => l
  | .bytes l _ => l
  | .group l _ _ _ _ => l
  | .mapping l _ => l
  | .wrapped l _ _ => l

-- The name by which values without an order among them are arranged.
def sortName (d : Datum) : Text :=
  match d with
  | .scalar (.date _) => "datetime.date".toList
  | .scalar (.moment _) => "datetime.datetime".toList
  | .scalar (.safe _) => "markupsafe.Markup".toList
  | d => d.typeName

def keyBefore (a b : Datum) : Bool :=
  match a.before? b with
  | some answer => answer
  | none => sortName a < sortName b

def sortByKey {β : Type} (entries : List (Datum × β)) : List (Datum × β) :=
  Id.run (Arrange.sort (fun a b => pure (keyBefore a.1 b.1)) entries)

def ofGroup (line opening closing : Text) (shift : Nat) (items : List Layout) : Layout :=
  if items.isEmpty then .solid line else .group line opening closing shift items

def entryLine (entry : Text × Layout) : Text :=
  entry.1 ++ ':' :: ' ' :: entry.2.line

mutual

-- Mappings are arranged by key. A read-only one keeps its order as long as it fits on one line.
def ofDatum : Datum → Layout
  | .scalar (.str s) => .text (Quoted.text s) s
  | .scalar (.bytes bs) => .bytes (Quoted.bytes bs) bs
  | .scalar s => .solid s.quoted
  | .list items =>
    let parts := ofItems items
    ofGroup (Datum.inBrackets (parts.map line)) ['['] [']'] 0 parts
  | .tuple items =>
    let parts := ofItems items
    let closing := if parts.length = 1 then [',', ')'] else [')']
    ofGroup (Datum.inParens (parts.map line)) ['('] closing 0 parts
  | .set frozen items =>
    let parts := ofItems items
    let whole := (Datum.set frozen items).quoted
    if frozen then ofGroup whole "frozenset(\x7b".toList "\x7d)".toList 10 parts
    else ofGroup whole ['\x7b'] ['\x7d'] 0 parts
  | .dict entries =>
    let sorted := (sortByKey (ofEntries entries)).map (·.2)
    .mapping (Datum.inBraces (sorted.map entryLine)) sorted
  | .view entries =>
    let sorted := (sortByKey (ofEntries entries)).map (·.2)
    .wrapped (Datum.view entries).quoted "mappingproxy(".toList
      (.mapping (Datum.inBraces (sorted.map entryLine)) sorted)
  | .other _ _ shown => .solid shown

def ofItems : List Datum → List Layout
  | [] => []
  | item :: rest => ofDatum item :: ofItems rest

def ofEntries : List (Datum × Datum) → List (Datum × Text × Layout)
  | [] => []
  | (key, value) :: rest => (key, (ofDatum key).line, ofDatum value) :: ofEntries rest

end

def isLineEnd (c : Char) : Bool :=
  let n := c.toNat
  (10 ≤ n && n ≤ 13) || (0x1C ≤ n && n ≤ 0x1E) || n == 0x85 || n == 0x2028 || n == 0x2029

-- The lines of a text, each with the characters that end it.
def lines : Text → List Text
  | [] => []
  | c :: rest =>
    match lines rest with
    | [] => [[c]]
    | next :: more =>
      if isLineEnd c && !(c == '\r' && next.head? == some '\n') then [c] :: next :: more
      else (c :: next) :: more

-- A line cut before each word that follows blanks.
def words : Text → List Text
  | [] => []
  | c :: rest =>
    match words rest with
    | [] => [[c]]
    | next :: more =>
      if isBlank c && !(next.head?.any isBlank) then [c] :: next :: more else (c :: next) :: more

-- Fills rows with quoted pieces as long as the width allows; the last piece leaves room for
-- `allowance` characters when `final` holds.
def fill {α : Type} (quote : List α → Text) (width : Int) (allowance : Int) (final : Bool) :
    List α → List (List α) → List Text
  | current, [] => if current.isEmpty then [] else [quote current]
  | current, piece :: rest =>
    let room := if rest.isEmpty && final then width - allowance else width
    if room < (quote (current ++ piece)).length then
      if current.isEmpty then fill quote width allowance final piece rest
      else quote current :: fill quote width allowance final piece rest
    else fill quote width allowance final (current ++ piece) rest

-- The rows of a text: one for each line that fits, several for one that does not.
def textRows (width allowance : Int) : List Text → List Text
  | [] => []
  | l :: rest =>
    let room := if rest.isEmpty then width - allowance else width
    let whole := Quoted.text l
    (if whole.length ≤ room then [whole]
      else fill Quoted.text width allowance rest.isEmpty [] (words l)) ++
    textRows width allowance rest

def newline (indent : Int) : Text :=
  '\n' :: List.replicate indent.toNat ' '

def pageWidth : Int := 80

-- A text over several rows, in parentheses when it stands alone.
def brokenText (s : Text) (indent allowance : Int) (alone : Bool) : Text :=
  let shift : Int := if alone then 1 else 0
  match textRows (pageWidth - (indent + shift)) (allowance + shift) (lines s) with
  | [] => Quoted.text s
  | [row] => row
  | rows =>
    let body := Text.join (newline (indent + shift)) rows
    if alone then '(' :: body ++ [')'] else body

def fours : Nat → List UInt8 → List (List UInt8)
  | 0, _ => []
  | n + 1, bs => if bs.isEmpty then [] else bs.take 4 :: fours n (bs.drop 4)

def brokenBytes (bs : List UInt8) (indent allowance : Int) (alone : Bool) : Text :=
  if bs.length ≤ 4 then Quoted.bytes bs
  else
    let shift : Int := if alone then 1 else 0
    let exact := bs.length % 4 == 0
    let rows := fill Quoted.bytes (pageWidth - (indent + shift)) (allowance + shift) (!exact) []
      (fours bs.length bs)
    let body := Text.join (newline (indent + shift)) rows
    if alone then '(' :: body ++ [')'] else body

mutual

-- A node on one line if it fits between `indent` and the page width less `allowance`; otherwise
-- its parts on lines of their own.
def render (indent allowance : Int) (alone : Bool) : Layout → Text
  | .solid l => l
  | .text l s => if l.length ≤ pageWidth - indent - allowance then l
    else brokenText s indent allowance alone
  | .bytes l bs => if l.length ≤ pageWidth - indent - allowance then l
    else brokenBytes bs indent allowance alone
  | .group l opening closing shift items =>
    if l.length ≤ pageWidth - indent - allowance then l
    else
      let inner := indent + shift + 1
      opening ++ Text.join (',' :: newline inner) (renderItems inner (allowance + closing.length) items)
        ++ closing
  | .mapping l entries =>
    if l.length ≤ pageWidth - indent - allowance then l
    else
      '\x7b' :: Text.join (',' :: newline (indent + 1)) (renderEntries (indent + 1) (allowance + 1) entries)
        ++ ['\x7d']
  | .wrapped l opening inner =>
    if l.length ≤ pageWidth - indent - allowance then l
    else opening ++ render (indent + opening.length) (allowance + 1) false inner ++ [')']

def renderItems (indent allowance : Int) : List Layout → List Text
  | [] => []
  | [item] => [render indent allowance false item]
  | item :: rest => render indent 1 false item :: renderItems indent allowance rest

def renderEntries (indent allowance : Int) : List (Text × Layout) → List Text
  | [] => []
  | [(key, value)] =>
    [key ++ ':' :: ' ' :: render (indent + key.length + 2) allowance false value]
  | (key, value) :: rest =>
    (key ++ ':' :: ' ' :: render (indent + key.length + 2) 1 false value) ::
      renderEntries indent allowance rest

end

end Layout

-- A value laid out on a page of fixed width, mappings arranged by key.
def Datum.pretty (d : Datum) : Text :=
  (Layout.ofDatum d).render 0 0 true

end BraceTemplate
