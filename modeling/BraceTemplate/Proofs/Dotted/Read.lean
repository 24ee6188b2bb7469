import BraceTemplate.Proofs.Dotted.Path
import BraceTemplate.Proofs.Shown.Read
import Mathlib.Data.Nat.Digits.Defs

namespace BraceTemplate

open Host

section Numerals

variable {segment : Text}

theorem ofDigitChars_lt (h : ∀ c ∈ segment, c.isDigit = true) (n : Nat) :
    Nat.ofDigitChars 10 segment n < (n + 1) * 10 ^ segment.length := by
  induction segment generalizing n with
  | nil => simp
  | cons c rest ih =>
      obtain ⟨hc, hrest⟩ := List.forall_mem_cons.mp h
      have hdigit : c.toNat - '0'.toNat < 10 := by
        have hbounds := Char.isDigit_iff_toNat.mp hc
        have hends : '0'.toNat = 48 ∧ '9'.toNat = 57 := ⟨rfl, rfl⟩
        omega
      have hle : 10 * n + (c.toNat - '0'.toNat) + 1 ≤ 10 * (n + 1) := by omega
      rw [Nat.ofDigitChars_cons, List.length_cons, Nat.pow_succ]
      calc Nat.ofDigitChars 10 rest (10 * n + (c.toNat - '0'.toNat))
          < (10 * n + (c.toNat - '0'.toNat) + 1) * 10 ^ rest.length := ih hrest _
        _ ≤ 10 * (n + 1) * 10 ^ rest.length := Nat.mul_le_mul_right _ hle
        _ = (n + 1) * (10 ^ rest.length * 10) := by ring

-- Zeros in front make a numeral longer, but none shorter.
theorem length_natText_ofDigitChars (hne : segment ≠ []) (h : ∀ c ∈ segment, c.isDigit = true) :
    (natText (Nat.ofDigitChars 10 segment 0)).length ≤ segment.length := by
  have hlt := ofDigitChars_lt h 0
  rw [Nat.zero_add, Nat.one_mul] at hlt
  exact Nat.toDigits_length 10 _ _ (List.length_pos_of_ne_nil hne) hlt

end Numerals

namespace Key

-- The part of a tag that a key is read as, and the literal that it stands for.
def kind : Key → TokenKind
  | .index n => .int n
  | .name s => .text s

def scalar : Key → Scalar
  | .index n => .int n
  | .name s => .str s

-- A position has a numeral that can be read.
def isShort : Key → Bool
  | .index n => (natText n).length ≤ maxNumeralLength
  | .name _ => true

theorem isShort_ofSegment {segment : Text} (h : isSegment segment = true) :
    (ofSegment segment).isShort = true := by
  rcases isSegment_cases h with ⟨hne, hdigits, hlength, hkey⟩ | ⟨-, -, hkey⟩
  · have hle := length_natText_ofDigitChars hne (List.all_eq_true.mp hdigits)
    rw [hkey]
    exact decide_eq_true (Nat.le_trans hle hlength)
  · rw [hkey]
    rfl

def kinds (keys : List Key) : List TokenKind :=
  keys.flatMap fun key => [.mark .leftBracket, key.kind, .mark .rightBracket]

-- An expression with subscripts behind it.
def subscribed (e : Expr) (keys : List Key) : Expr :=
  keys.foldl (fun e key => .item e (.literal key.scalar)) e

end Key

namespace Host.Token

variable {s : Text} {ks : List TokenKind} {brackets : List Mark}

theorem readsInTag_key {key : Key} (hkey : key.isShort = true)
    (h : ReadsInTag false brackets (']' :: s) ks) :
    ReadsInTag false brackets (key.text ++ ']' :: s) (key.kind :: ks) := by
  cases key with
  | index n => exact readsInTag_number (of_decide_eq_true hkey) rfl h
  | name t =>
      have hnext := next_quoted t (']' :: s)
      have hquote := isQuote_iff.mp (Quoted.isQuote_quoteFor t)
      have hends : endsTag false (Quoted.quoteFor t) = false ∧ isBlank (Quoted.quoteFor t) = false := by
        rcases hquote with hq | hq <;> rw [hq] <;> decide
      exact readsInTag_part hends.1 hends.2 hnext (.inr ⟨by simp [Key.kind], rfl⟩) h

-- What stands between brackets is read up to the end of them, whatever is in it.
theorem readsInTag_subscripts {keys : List Key} (hkeys : ∀ key ∈ keys, key.isShort = true)
    (h : ReadsInTag false [] s ks) :
    ReadsInTag false [] (Dotted.subscripts keys ++ s) (Key.kinds keys ++ ks) := by
  induction keys with
  | nil => exact h
  | cons key keys ih =>
      obtain ⟨hkey, hrest⟩ := List.forall_mem_cons.mp hkeys
      have hclose : ReadsInTag false [.rightBracket] (']' :: (Dotted.subscripts keys ++ s))
          (.mark .rightBracket :: (Key.kinds keys ++ ks)) :=
        readsInTag_part (t := []) (by decide) (by decide) (fun afterPoint => by cases afterPoint <;> rfl)
          (.inl ⟨_, rfl, rfl⟩) (ih hrest)
      have hopen : ReadsInTag false [] ('[' :: (key.text ++ ']' :: (Dotted.subscripts keys ++ s)))
          (.mark .leftBracket :: key.kind :: .mark .rightBracket :: (Key.kinds keys ++ ks)) :=
        readsInTag_part (t := []) (by decide) (by decide) (fun afterPoint => by cases afterPoint <;> rfl)
          (.inl ⟨_, rfl, rfl⟩) (readsInTag_key hkey hclose)
      simpa [Dotted.subscripts, Key.kinds] using hopen

theorem readsInTag_head {x : Text} (hx : isName x = true) (h : ReadsInTag false [] s ks) :
    ReadsInTag false [] ('(' :: (x ++ ')' :: s))
      (.mark .leftParen :: .name x :: .mark .rightParen :: ks) := by
  have hclose : ReadsInTag false [.rightParen] (')' :: s) (.mark .rightParen :: ks) :=
    readsInTag_mark (m := .rightParen) rfl (.inr rfl) (by simp) rfl h
  have hends : EndsName (')' :: s) := by
    intro c hc
    obtain rfl : ')' = c := by simpa using hc
    decide
  exact readsInTag_mark (m := .leftParen) rfl (.inr rfl) (by simp) rfl (readsInTag_name hx hends hclose)

end Host.Token

namespace Host.Reader

variable {o : Outlook} {ks : List TokenKind} {x : Text}

-- A name between parentheses, be it one that the host has given a meaning to.
theorem takes_primary_head (hx : isReadable x = true) (hroom : bracketCost ≤ o.room) (n : Nat) :
    Takes (primary (n + 12)) o (.mark .leftParen :: .name x :: .mark .rightParen :: ks) (.name x) ks := by
  have hne : ∀ w ∈ hostWords, x ≠ w := fun w hw => ne_of_readable hx hw
  have hconstant : constant? x = none := by
    have hboth : ∀ w ∈ hostWords, ∀ w' ∈ hostWords, ¬ (x = w ∨ x = w') :=
      fun w hw w' hw' => not_or.mpr ⟨hne w hw, hne w' hw'⟩
    rw [constant?, if_neg (hboth _ (by decide) _ (by decide)),
      if_neg (hboth _ (by decide) _ (by decide)), if_neg (hboth _ (by decide) _ (by decide))]
  have hnot : isWord "not" (some (.name x)) = false := decide_eq_false (hne _ (by decide))
  have hsigned : Takes (signed (n + 2) true) { o with room := o.room - bracketCost }
      (.name x :: .mark .rightParen :: ks) (.name x) (.mark .rightParen :: ks) :=
    takes_signed ⟨rfl, rfl⟩ (takes_primary_name hconstant n) (takes_postfixed rfl n _)
      (takes_filtered rfl n _)
  exact takes_primary_parens hroom rfl (takes_expr hsigned hnot rfl)

theorem takes_primary_key (key : Key) (n : Nat) (hks : ∀ s, ks.head? ≠ some (.text s)) :
    Takes (primary (n + 2)) o (key.kind :: ks) (.literal key.scalar) ks := by
  cases key with
  | index i => exact takes_peek.bind (takes_skip.bind (takes_pure _))
  | name s =>
      have hrest : Takes (textsFrom n) o ks [] ks := by
        cases n with
        | zero => exact takes_pure []
        | succ n =>
            refine takes_peek.bind ?_
            split
            · next t h => exact absurd h (hks t)
            · exact takes_pure []
      have htexts : Takes (textsFrom (n + 1)) o (.text s :: ks) s ks := by
        refine takes_peek.bind (takes_skip.bind (hrest.bind ?_))
        rw [List.append_nil]
        exact takes_pure s
      exact takes_peek.bind (htexts.bind (takes_pure _))

-- One key between brackets.
theorem takes_subscript (key : Key) (hroom : callCost ≤ o.room) (n : Nat) (e : Expr) :
    Takes (subscript (n + 13) e) o (key.kind :: .mark .rightBracket :: ks)
      (.item e (.literal key.scalar)) ks := by
  have hkind : ∀ m, isMark m (some key.kind) = false := by cases key <;> exact fun m => rfl
  have hnot : isWord "not" (some key.kind) = false := by cases key <;> rfl
  have hend : endsOperand (TokenKind.mark .rightBracket :: ks).head? = true := rfl
  have hkey : Takes (expr (n + 12)) { o with room := o.room - callCost }
      (key.kind :: .mark .rightBracket :: ks) (.literal key.scalar) (.mark .rightBracket :: ks) :=
    takes_expr (takes_signed ⟨hkind _, hkind _⟩ (takes_primary_key key n (by simp))
      (takes_postfixed hend (n + 1) _) (takes_filtered hend (n + 1) _)) hnot rfl
  have hsubscribed : Takes (subscribed (expr (n + 12))) { o with room := o.room - callCost }
      (key.kind :: .mark .rightBracket :: ks) (.literal key.scalar) (.mark .rightBracket :: ks) := by
    refine takes_peek.bind ?_
    simp only [List.head?_cons, hkind, Bool.false_eq_true, if_false]
    exact hkey.bind ((takes_pure _).bind (takes_peek.bind (takes_pure _)))
  have hsubscripts : Takes (subscripts (expr (n + 12)) (n + 12)) { o with room := o.room - callCost }
      (key.kind :: .mark .rightBracket :: ks) [.literal key.scalar] ks := by
    refine hsubscribed.bind ((takes_takeMark .rightBracket).bind ?_)
    simp only [if_true]
    exact takes_pure _
  refine (takes_takeMark_of_ne (hkind _)).bind ?_
  simp only [Bool.false_eq_true, if_false]
  exact (hsubscripts.within hroom).bind (takes_pure _)

-- The keys behind an expression, up to what is no subscript.
theorem takes_postfixed_keys (hroom : callCost ≤ o.room)
    (hend : ∀ n e, Takes (postfixed (n + 1) e) o ks e ks) {keys : List Key} {n : Nat}
    (hn : keys.length ≤ n) (e : Expr) :
    Takes (postfixed (n + 13) e) o (Key.kinds keys ++ ks) (Key.subscribed e keys) ks := by
  induction keys generalizing n e with
  | nil => exact hend (n + 12) e
  | cons key keys ih =>
      obtain ⟨n, rfl⟩ : ∃ m, n = m + 1 := ⟨n - 1, by simp only [List.length_cons] at hn; omega⟩
      have hrest := ih (Nat.le_of_succ_le_succ hn) (.item e (.literal key.scalar))
      exact takes_peek.bind (takes_skip.bind ((takes_subscript key hroom n e).bind hrest))

end Host.Reader

namespace Dotted

open Reader

variable {p : Dotted}

-- The parts between the delimiters of the output that a path becomes.
def kinds (p : Dotted) : List TokenKind :=
  .mark .leftParen :: .name p.head :: .mark .rightParen :: (Key.kinds p.keys ++ pipeKinds ["e"])

def expr (p : Dotted) : Expr :=
  pipedExpr (Key.subscribed (.name p.head) p.keys) ["e"]

theorem Sound.isShort_keys (hp : p.Sound) : ∀ key ∈ p.keys, key.isShort = true := by
  intro key hm
  obtain ⟨segment, hsegment, rfl⟩ := List.mem_map.mp hm
  exact Key.isShort_ofSegment (hp.segments segment hsegment)

theorem Sound.scan_host (hp : p.Sound) :
    (Token.scan p.host).map (·.kind) = .openOutput :: (p.kinds ++ [.closeOutput]) := by
  let tail : List Lexeme := [.blank, .mark .pipe, .blank, Lexeme.word "e"]
  have hend : Token.ReadsInTag false [] (' ' :: (Host.outputClose ++ [])) [.closeOutput] :=
    Token.readsInTag_blank (Token.readsInTag_outputEnd (Token.follows_nil [] List.not_mem_nil))
  have hpipe : Token.ReadsInTag false [] (Lexeme.spellAll tail ++ ' ' :: (Host.outputClose ++ []))
      (pipeKinds ["e"] ++ [.closeOutput]) :=
    Token.readsInTag_lexemes (show tail.all Lexeme.isSound = true from rfl) rfl rfl (.inr rfl) rfl hend
  have hinner := Token.readsInTag_head (isName_of_readable hp.head)
    (Token.readsInTag_subscripts hp.isShort_keys hpipe)
  have huntagged : Token.Untagged [] := fun _ => rfl
  have hwhole := (Token.readsAs_output huntagged (Token.readsInTag_blank hinner)).scan
  simpa [host, kinds, Host.output, tail, Lexeme.spellAll, Lexeme.spell, Lexeme.word, dataKinds]
    using hwhole

theorem Sound.takes_tuple (hp : p.Sound) {o : Outlook} (hroom : callCost ≤ o.room) {n : Nat}
    (hn : p.keys.length ≤ n) :
    Takes (tuple (n + 23)) o (p.kinds ++ [.closeOutput]) p.expr [.closeOutput] := by
  let ks : List TokenKind := pipeKinds ["e"] ++ [.closeOutput]
  have hpost : Takes (postfixed (n + 13) (.name p.head)) o (Key.kinds p.keys ++ ks)
      (Key.subscribed (.name p.head) p.keys) ks :=
    takes_postfixed_keys hroom (fun _ _ => takes_peek.bind (takes_pure _)) hn _
  have hfilter : Takes (filtered (n + 13) (Key.subscribed (.name p.head) p.keys)) o ks p.expr
      [.closeOutput] := takes_pipes rfl (by simp) _
  have hbracket : bracketCost ≤ o.room := Nat.le_trans (by decide) hroom
  have hprimary : Takes (primary (n + 13)) o
      (.mark .leftParen :: .name p.head :: .mark .rightParen :: (Key.kinds p.keys ++ ks)) (.name p.head)
      (Key.kinds p.keys ++ ks) := takes_primary_head hp.head hbracket (n + 1)
  have hsigned := takes_signed ⟨rfl, rfl⟩ hprimary hpost hfilter
  have hkinds : p.kinds ++ [.closeOutput] =
      .mark .leftParen :: .name p.head :: .mark .rightParen :: (Key.kinds p.keys ++ ks) := by
    simp [kinds, ks]
  rw [hkinds]
  exact Reader.takes_tuple (takes_expr hsigned rfl rfl) rfl rfl

theorem faultless_kinds (p : Dotted) : Faultless p.kinds := by
  have hkey : ∀ keys, Faultless (Key.kinds keys) := by
    intro keys e he
    obtain ⟨key, -, he⟩ := List.mem_flatMap.mp he
    cases key <;> simp [Key.kind] at he
  intro e he
  have hpipe : .fault e ∉ pipeKinds ["e"] := by simp [pipeKinds]
  simp [kinds, hkey _ e, hpipe] at he

theorem Sound.return_not_mem_host (hp : p.Sound) : '\r' ∉ p.host := by
  have hhead : '\r' ∉ p.head := fun hm => absurd (hp.not_isBlank_head _ hm) (by decide)
  have hkeys : '\r' ∉ subscripts p.keys := fun hm => absurd (hp.not_isBlank_subscripts _ hm) (by decide)
  simp [host, Host.output, Host.outputOpen, Host.outputClose, hhead, hkeys]

-- The host reads the text that a path becomes as one output of its keys, applied one after the other.
theorem Sound.nodesOfText_host (hp : p.Sound) : nodesOfText p.host = .ok [.output p.expr] := by
  have hfaultless : Faultless (.openOutput :: (p.kinds ++ [.closeOutput])) := by
    intro e he
    simp [p.faultless_kinds e] at he
  refine nodesOfText_eq_ok hp.return_not_mem_host hp.scan_host hfaultless ?_
  have hlength : (TokenKind.openOutput :: (p.kinds ++ [.closeOutput])).length =
      3 * p.keys.length + 7 := by
    simp [kinds, Key.kinds, pipeKinds]
    omega
  rw [hlength]
  obtain ⟨n, hn⟩ : ∃ n, 20 * (3 * p.keys.length + 7) + 20 = n + 24 := ⟨60 * p.keys.length + 136, by omega⟩
  rw [hn]
  have hroom : callCost ≤ templateRoom := by decide
  refine takes_peek.bind (takes_skip.bind ((hp.takes_tuple hroom (by omega)).bind ?_))
  exact takes_expectOutputEnd.bind ((Ends.template.takes (n + 22)).bind (takes_pure _))

end Dotted

end BraceTemplate
