import BraceTemplate.Pattern.Basic
import BraceTemplate.Number.Digits
import BraceTemplate.Text.Hex

namespace BraceTemplate.Pattern

-- The pattern text that is left and the number of groups opened so far.
structure Reading where
  rest : Text
  groups : Nat

abbrev Reader := StateT Reading Option

def literal (c : Char) : Pattern :=
  .one ⟨false, [.single c]⟩

-- What a backslash means in and outside of sets: a class or a character.
def readEscape : Text → Option (CharItem × Text)
  | [] => none
  | c :: rest =>
    match c with
    | 's' => some (.kind .blank false, rest)
    | 'S' => some (.kind .blank true, rest)
    | 'w' => some (.kind .word false, rest)
    | 'W' => some (.kind .word true, rest)
    | 'd' => some (.kind .digit false, rest)
    | 'D' => some (.kind .digit true, rest)
    | 'a' => some (.single '\x07', rest)
    | 'f' => some (.single '\x0c', rest)
    | 'n' => some (.single '\n', rest)
    | 'r' => some (.single '\r', rest)
    | 't' => some (.single '\t', rest)
    | 'v' => some (.single '\x0b', rest)
    | 'x' => (hexChar? 2 rest).map fun d => (.single d, rest.drop 2)
    | 'u' => (hexChar? 4 rest).map fun d => (.single d, rest.drop 4)
    | 'U' => (hexChar? 8 rest).map fun d => (.single d, rest.drop 8)
    | '0' =>
      let digits := (rest.take 2).takeWhile isOctalDigit
      some (.single (Char.ofNat (octalValue digits)), rest.drop digits.length)
    | c => if c.isAlphanum then none else some (.single c, rest)

-- One member of a set: an escape or a character.
def readMember : Text → Option (CharItem × Text)
  | '\\' :: 'b' :: rest => some (.single '\x08', rest)
  | '\\' :: rest => readEscape rest
  | c :: rest => some (.single c, rest)
  | [] => none

-- The members of a set up to the closing bracket, which counts as a member in first place.
def readMembers : (fuel : Nat) → (first : Bool) → Text → Option (List CharItem × Text)
  | 0, _, _ => none
  | fuel + 1, first, s =>
    match first, s with
    | _, [] => none
    | false, ']' :: rest => some ([], rest)
    | _, s => do
      let (item, rest) ← readMember s
      match rest with
      | '-' :: ']' :: after => some ([item, .single '-'], after)
      | '-' :: next => do
        let (last, after) ← readMember next
        match item, last with
        | .single a, .single b =>
          if b < a then none
          let (items, tail) ← readMembers fuel false after
          some (.range a b :: items, tail)
        | _, _ => none
      | rest => do
        let (items, tail) ← readMembers fuel false rest
        some (item :: items, tail)

def readSet (s : Text) : Option (CharSet × Text) :=
  let (negated, s) := match s with
    | '^' :: rest => (true, rest)
    | s => (false, s)
  (readMembers (s.length + 1) true s).map fun (items, rest) => (⟨negated, items⟩, rest)

-- The bounds of a repetition in braces; `none` where the brace stands for itself.
def readBounds (s : Text) : Option ((Nat × Option Nat) × Text) :=
  let low := s.takeWhile Char.isDigit
  let rest := s.dropWhile Char.isDigit
  let value := fun (digits : Text) => (readDigits? digits).getD 0
  match rest with
  | '\x7d' :: after => if low.isEmpty then none else some ((value low, some (value low)), after)
  | ',' :: rest =>
    let high := rest.takeWhile Char.isDigit
    match rest.dropWhile Char.isDigit with
    | '\x7d' :: after => some ((value low, if high.isEmpty then none else some (value high)), after)
    | _ => none
  | _ => none

-- The repetition mark that follows an item, if one does.
def readRepeat : Text → Option ((Nat × Option Nat) × Text)
  | '*' :: rest => some ((0, none), rest)
  | '+' :: rest => some ((1, none), rest)
  | '?' :: rest => some ((0, some 1), rest)
  | '\x7b' :: rest => readBounds rest
  | _ => none

def readGreed : Text → Greed × Text
  | '?' :: rest => (.least, rest)
  | '+' :: rest => (.held, rest)
  | s => (.most, s)

def edge? : Char → Option Edge
  | 'A' => some .textStart
  | 'Z' => some .textEnd
  | 'b' => some .wordEdge
  | 'B' => some .noWordEdge
  | _ => none

mutual

-- Alternatives, up to the end or a closing parenthesis.
def readChoice : (fuel : Nat) → Reader Pattern
  | 0 => failure
  | fuel + 1 => do
    let first ← readSequence fuel
    match (← get).rest with
    | '|' :: rest =>
      modify fun r => { r with rest := rest }
      let second ← readChoice fuel
      pure (.either first second)
    | _ => pure first

def readSequence : (fuel : Nat) → Reader Pattern
  | 0 => failure
  | fuel + 1 => do
    match (← get).rest with
    | [] | '|' :: _ | ')' :: _ => pure .nothing
    | _ =>
      let item ← readItem fuel
      let rest ← readSequence fuel
      pure (.seq item rest)

-- One item with its repetition mark. Edges cannot be repeated, nor can repetitions.
def readItem : (fuel : Nat) → Reader Pattern
  | 0 => failure
  | fuel + 1 => do
    let item ← readAtom fuel
    match readRepeat (← get).rest with
    | none => pure item
    | some ((least, most), rest) =>
      if let .edge _ := item then failure
      if most.any (· < least) then failure
      let (greed, rest) := readGreed rest
      modify fun r => { r with rest := rest }
      if (readRepeat rest).isSome then failure
      pure (.repeated greed least most item)

def readAtom : (fuel : Nat) → Reader Pattern
  | 0 => failure
  | fuel + 1 => do
    let state ← get
    let go := fun (rest : Text) => set (σ := Reading) { state with rest := rest }
    match state.rest with
    | [] => failure
    | '^' :: rest => go rest; pure (.edge .lineStart)
    | '$' :: rest => go rest; pure (.edge .lineEnd)
    | '.' :: rest => go rest; pure (.one ⟨false, [.kind .any false]⟩)
    | '[' :: rest =>
      let (chars, rest) ← liftM (readSet rest)
      go rest
      pure (.one chars)
    | '(' :: '?' :: ':' :: rest =>
      go rest
      closeGroup (← readChoice fuel)
    | '(' :: '?' :: _ => failure
    | '(' :: rest =>
      let index := state.groups + 1
      set (σ := Reading) ⟨rest, index⟩
      let body ← readChoice fuel
      closeGroup (.group index body)
    | '\\' :: rest =>
      match rest with
      | [] => failure
      | c :: after =>
        match edge? c with
        | some e => go after; pure (.edge e)
        | none =>
          let (item, after) ← liftM (readEscape rest)
          go after
          pure (.one ⟨false, [item]⟩)
    | '*' :: _ | '+' :: _ | '?' :: _ => failure
    | c :: rest =>
      if c == '\x7b' && (readBounds rest).isSome then failure
      go rest
      pure (literal c)
where
  closeGroup (body : Pattern) : Reader Pattern := do
    match (← get).rest with
    | ')' :: rest =>
      modify fun r => { r with rest := rest }
      pure body
    | _ => failure

end

-- Reads a pattern; answers it with the number of its groups.
def ofText? (s : Text) : Option (Pattern × Nat) := do
  let (pattern, state) ← (readChoice (4 * s.length + 4)).run ⟨s, 0⟩
  if state.rest.isEmpty then some (pattern, state.groups) else none

end BraceTemplate.Pattern
