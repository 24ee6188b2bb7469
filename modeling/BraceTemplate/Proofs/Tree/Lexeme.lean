import BraceTemplate.Host.Token
import BraceTemplate.Number.Digits
import BraceTemplate.Proofs.Tree.Basic
import Mathlib.Algebra.Group.Nat.Defs

namespace BraceTemplate

theorem isDigit_of_mem_natText {n : Nat} {c : Char} (hc : c ∈ natText n) : c.isDigit = true :=
  Nat.isDigit_of_mem_toDigits (by decide) (by decide) hc

theorem digitValue?_of_isDigit {c : Char} (h : c.isDigit = true) :
    digitValue? c = some (c.toNat - '0'.toNat) := by
  simp only [Char.isDigit, Bool.and_eq_true, decide_eq_true_eq, UInt32.le_iff_toNat_le, ge_iff_le] at h
  have hlow : 48 ≤ c.toNat := h.1
  have hhigh : c.toNat ≤ 57 := h.2
  rw [digitValue?, if_pos (by omega), if_pos ⟨hlow, by omega⟩]
  rfl

theorem isDecimalDigit_of_isDigit {c : Char} (h : c.isDigit = true) : isDecimalDigit c = true := by
  rw [isDecimalDigit, digitValue?_of_isDigit h]
  rfl

theorem foldlM_digitValue? {s : Text} (hs : ∀ c ∈ s, c.isDigit = true) (n : Nat) :
    s.foldlM (fun n c => (digitValue? c).map (n * 10 + ·)) n = some (Nat.ofDigitChars 10 s n) := by
  induction s generalizing n with
  | nil => rfl
  | cons c rest ih =>
      rw [List.foldlM_cons, digitValue?_of_isDigit (hs c List.mem_cons_self), Nat.ofDigitChars_cons]
      have h := ih (fun d hd => hs d (List.mem_cons_of_mem _ hd)) (10 * n + (c.toNat - '0'.toNat))
      simpa [Nat.mul_comm] using h

-- A numeral is read as the number that it was written for.
theorem readDigits?_natText (n : Nat) : readDigits? (natText n) = some n := by
  rw [readDigits?, foldlM_digitValue? fun c hc => isDigit_of_mem_natText hc, natText,
    Nat.ofDigitChars_ten_toDigits]

-- A numeral has no zeros in front.
theorem natText_cases (n : Nat) :
    natText n = ['0'] ∨ ∃ c rest, natText n = c :: rest ∧ '1' ≤ c ∧ c ≤ '9' := by
  have hdigit : ∀ d < 10, 0 < d → '1' ≤ Nat.digitChar d ∧ Nat.digitChar d ≤ '9' := by decide
  induction n using Nat.strongRecOn with
  | _ n ih =>
      by_cases hn : n < 10
      · rw [natText, Nat.toDigits_of_lt_base hn]
        obtain rfl | hpos := Nat.eq_zero_or_pos n
        · exact .inl rfl
        · exact .inr ⟨_, [], rfl, hdigit n hn hpos⟩
      · have hle : 10 ≤ n := Nat.le_of_not_lt hn
        have hstep : natText n = natText (n / 10) ++ [Nat.digitChar (n % 10)] :=
          Nat.toDigits_of_base_le (by decide) hle
        rcases ih (n / 10) (Nat.div_lt_self (by omega) (by decide)) with h | ⟨c, rest, h, hc⟩
        · have hzero : n / 10 = 0 := by
            have hread := readDigits?_natText (n / 10)
            rw [h] at hread
            exact (Option.some.inj hread).symm
          omega
        · exact .inr ⟨c, rest ++ [Nat.digitChar (n % 10)], by rw [hstep, h]; rfl, hc⟩

theorem exists_cons_natText (n : Nat) : ∃ d rest, natText n = d :: rest ∧ d.isDigit = true := by
  obtain ⟨d, rest, hn⟩ : ∃ d rest, natText n = d :: rest := by
    rcases natText_cases n with hn | ⟨d, rest, hn, -⟩
    · exact ⟨_, _, hn⟩
    · exact ⟨d, rest, hn⟩
  exact ⟨d, rest, hn, isDigit_of_mem_natText (hn ▸ List.mem_cons_self)⟩

theorem lt_pow_length_natText (n : Nat) : n < 10 ^ (natText n).length := by
  induction n using Nat.strongRecOn with
  | _ n ih =>
      by_cases hn : n < 10
      · rw [natText, Nat.toDigits_of_lt_base hn]
        simpa using hn
      · have hle : 10 ≤ n := Nat.le_of_not_lt hn
        have hstep : natText n = natText (n / 10) ++ [Nat.digitChar (n % 10)] :=
          Nat.toDigits_of_base_le (by decide) hle
        have hfront := ih (n / 10) (Nat.div_lt_self (by omega) (by decide))
        rw [hstep, List.length_append, List.length_singleton, Nat.pow_succ]
        omega

theorem lt_pow_of_length_le {n m : Nat} (hn : (natText n).length ≤ m) : n < Nat.pow 10 m :=
  Nat.lt_of_lt_of_le (lt_pow_length_natText n) (Nat.pow_le_pow_right (by decide) hn)

theorem lt_length_natText_pow (m : Nat) : m < (natText (10 ^ m)).length :=
  Nat.not_le.mp fun h => Nat.lt_irrefl _ (lt_pow_of_length_le h)

-- A number whose numeral can be read has one that can be written.
theorem hasNumeral_of_length_le {n : Nat} (hn : (natText n).length ≤ maxNumeralLength) :
    hasNumeral n = true := by
  have hlt := lt_pow_of_length_le hn
  rw [hasNumeral, Int.natAbs_natCast]
  exact decide_eq_true hlt

namespace Host

-- The marks that stand in the tags into which trees and switches are compiled.
@[simp] def Mark.isInTags : Mark → Bool
  | .leftParen | .rightParen | .comma | .pipe | .dot | .assign | .eq => true
  | _ => false

@[simp] def Mark.spelling : Mark → Text
  | .leftParen => ['(']
  | .rightParen => [')']
  | .comma => [',']
  | .pipe => ['|']
  | .dot => ['.']
  | .assign => ['=']
  | .eq => ['=', '=']
  | _ => []

-- What those tags are made of.
inductive Lexeme where
  | blank
  | name (x : Text)
  | number (n : Nat)
  | mark (m : Mark)
  deriving DecidableEq

namespace Lexeme

def spell : Lexeme → Text
  | .blank => [' ']
  | .name x => x
  | .number n => natText n
  | .mark m => m.spelling

def spellAll (lexemes : List Lexeme) : Text :=
  lexemes.flatMap spell

-- The part of a template that a lexeme is read as; white space is none.
def kind? : Lexeme → Option TokenKind
  | .blank => none
  | .name x => some (.name x)
  | .number n => some (.int n)
  | .mark m => some (.mark m)

def kinds (lexemes : List Lexeme) : List TokenKind :=
  lexemes.filterMap kind?

def word (w : String) : Lexeme :=
  .name w.toList

-- A name is spelled as one, and a mark may stand in a tag.
def isSound : Lexeme → Bool
  | .blank => true
  | .name x => isName x
  | .number _ => true
  | .mark m => m.isInTags

-- A number is not too long to be read.
def isShort : Lexeme → Bool
  | .number n => (natText n).length ≤ maxNumeralLength
  | _ => true

@[simp] theorem isSound_blank : blank.isSound = true := rfl

@[simp] theorem isSound_name (x : Text) : (name x).isSound = isName x := rfl

@[simp] theorem isSound_number (n : Nat) : (number n).isSound = true := rfl

@[simp] theorem isSound_mark (m : Mark) : (mark m).isSound = m.isInTags := rfl

-- A name between parentheses.
def enclosed (x : Text) : List Lexeme :=
  [.mark .leftParen, .name x, .mark .rightParen]

-- A name to which a filter is applied.
def filtered (x : Text) (filter : String) : List Lexeme :=
  enclosed x ++ [.blank, .mark .pipe, .blank, word filter]

def test (keyword : String) (x : Text) : List Lexeme :=
  word keyword :: .blank :: enclosed x

def target : Binder → List Lexeme
  | .value v => [.name v]
  | .pair k v => [.name k, .mark .comma, .blank, .name v]

-- The filter that hands out what a loop binds.
def source : Binder → String
  | .value _ => "values"
  | .pair _ _ => "pairs"

def loop (x : Text) (binder : Binder) : List Lexeme :=
  word "for" :: .blank :: (target binder ++ .blank :: word "in" :: .blank :: filtered x (source binder))

end Lexeme

-- A tag of the host that holds a statement, and one that puts something out.
def statementOf (lexemes : List Lexeme) : Text :=
  statement (Lexeme.spellAll lexemes)

def outputOf (lexemes : List Lexeme) : Text :=
  output (Lexeme.spellAll lexemes)

end Host

open Host Lexeme

mutual

-- The host text of a tree.
def Tree.host : Tree → Text
  | .done => []
  | .chunk s rest => s ++ rest.host
  | .output x rest => outputOf (filtered x "e") ++ rest.host
  | .choose x body more rest =>
    statementOf (test "if" x) ++
      (body.host ++ (more.host ++ (statementOf [word "endif"] ++ rest.host)))
  | .each x binder body rest =>
    statementOf (loop x binder) ++ (body.host ++ (statementOf [word "endfor"] ++ rest.host))

def Branches.host : Branches → Text
  | .done => []
  | .otherwise body => statementOf [word "else"] ++ body.host
  | .elseif x body more => statementOf (test "elif" x) ++ (body.host ++ more.host)

end

namespace Host

def dataKinds (s : Text) : List TokenKind :=
  if s.isEmpty then [] else [.data s]

def statementKinds (lexemes : List Lexeme) : List TokenKind :=
  .openStatement :: (Lexeme.kinds lexemes ++ [.closeStatement])

def outputKinds (lexemes : List Lexeme) : List TokenKind :=
  .openOutput :: (Lexeme.kinds lexemes ++ [.closeOutput])

end Host

mutual

-- The parts of the host text of a tree, where `before` is text that stands in front of it. Texts next
-- to each other are one part.
def Tree.kinds : Tree → (before : Text) → List TokenKind
  | .done, before => dataKinds before
  | .chunk s rest, before => rest.kinds (before ++ s)
  | .output x rest, before => dataKinds before ++ (outputKinds (filtered x "e") ++ rest.kinds [])
  | .choose x body more rest, before =>
    dataKinds before ++ (statementKinds (test "if" x) ++
      (body.kinds [] ++ (more.kinds ++ (statementKinds [word "endif"] ++ rest.kinds []))))
  | .each x binder body rest, before =>
    dataKinds before ++ (statementKinds (loop x binder) ++
      (body.kinds [] ++ (statementKinds [word "endfor"] ++ rest.kinds [])))

def Branches.kinds : Branches → List TokenKind
  | .done => []
  | .otherwise body => statementKinds [word "else"] ++ body.kinds []
  | .elseif x body more => statementKinds (test "elif" x) ++ (body.kinds [] ++ more.kinds)

end

namespace Host

-- A name to which a filter is applied, as an expression.
def filteredName (x : Text) (filter : String) : Expr :=
  .filter (.name x) filter.toList [] [] none none

def targetOf : Binder → Target
  | .value v => .name v
  | .pair k v => .tuple [.name k, .name v]

def dataNodes (s : Text) : List Node :=
  if s.isEmpty then [] else [.text s]

end Host

mutual

-- The nodes of a tree behind text that stands in front of it.
def Tree.nodes : Tree → (before : Text) → List Node
  | .done, before => dataNodes before
  | .chunk s rest, before => rest.nodes (before ++ s)
  | .output x rest, before => dataNodes before ++ .output (filteredName x "e") :: rest.nodes []
  | .choose x body more rest, before =>
    dataNodes before ++
      .conditional ((.name x, body.nodes []) :: more.tests) more.fallback :: rest.nodes []
  | .each x binder body rest, before =>
    dataNodes before ++
      .loop (targetOf binder) (filteredName x (source binder)) none (body.nodes []) [] ::
        rest.nodes []

-- The further branches of a choice with their tests, and what is left when none holds.
def Branches.tests : Branches → List (Expr × List Node)
  | .done => []
  | .otherwise _ => []
  | .elseif x body more => (.name x, body.nodes []) :: more.tests

def Branches.fallback : Branches → List Node
  | .done => []
  | .otherwise body => body.nodes []
  | .elseif _ _ more => more.fallback

end

end BraceTemplate
