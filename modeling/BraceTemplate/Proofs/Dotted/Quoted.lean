import BraceTemplate.Host.Token
import BraceTemplate.Proofs.Literal.Restore
import Mathlib.Algebra.Group.Nat.Defs

namespace BraceTemplate

open Host

-- A sign that a text can be put between.
def isQuote (quote : Char) : Bool :=
  quote == '\'' || quote == '"'

theorem isQuote_iff {quote : Char} : isQuote quote = true ↔ quote = '\'' ∨ quote = '"' := by
  simp [isQuote]

theorem Quoted.isQuote_quoteFor (s : Text) : isQuote (quoteFor s) = true := by
  unfold quoteFor
  split <;> decide

section Hex

theorem length_hexFixed (width n : Nat) : (Quoted.hexFixed width n).length = width := by
  induction width generalizing n with
  | zero => rfl
  | succ width ih => simp [Quoted.hexFixed, ih]

theorem mem_of_mem_hexFixed {width n : Nat} {d : Char} (hd : d ∈ Quoted.hexFixed width n) :
    d ∈ "0123456789abcdef".toList := by
  induction width generalizing n with
  | zero => exact absurd hd List.not_mem_nil
  | succ width ih =>
      rcases List.mem_append.mp hd with hd | hd
      · exact ih hd
      · exact List.mem_singleton.mp hd ▸ Md5.hexDigit_mem _

-- The digits of a number are read as the number again.
theorem foldlM_hexFixed {width n : Nat} (hn : n < 16 ^ width) :
    (Quoted.hexFixed width n).foldlM (fun n c => (hexValue? c).map (n * 16 + ·)) 0 = some n := by
  have hdigit : ∀ d < 16, hexValue? (Md5.hexDigit d) = some d := by decide
  induction width generalizing n with
  | zero =>
      obtain rfl : n = 0 := by simpa using hn
      rfl
  | succ width ih =>
      have hfront : n / 16 < 16 ^ width := by
        rw [Nat.pow_succ] at hn
        omega
      rw [Quoted.hexFixed, List.foldlM_append, ih hfront]
      simp [hdigit (n % 16) (Nat.mod_lt _ (by decide)), Nat.div_add_mod']

theorem charOfPoint?_toNat (c : Char) : charOfPoint? c.toNat = some c := by
  have hvalid : c.toNat < 0x110000 ∧ (c.toNat < 0xD800 ∨ 0xDFFF < c.toNat) := by
    rcases c.valid with h | ⟨h, h'⟩
    · exact ⟨Nat.lt_trans h (by decide), .inl h⟩
    · exact ⟨h', .inr h⟩
  rw [charOfPoint?, if_pos hvalid, Char.ofNat_toNat]

theorem hexChar?_hexFixed {width : Nat} {c : Char} (hc : c.toNat < 16 ^ width) (s : Text) :
    hexChar? width (Quoted.hexFixed width c.toNat ++ s) = some c := by
  have htake : (Quoted.hexFixed width c.toNat ++ s).take width = Quoted.hexFixed width c.toNat := by
    rw [List.take_append_of_le_length (length_hexFixed _ _).ge,
      List.take_of_length_le (length_hexFixed _ _).le]
  simp only [hexChar?, htake, length_hexFixed, ne_eq, not_true_eq_false, if_false, foldlM_hexFixed hc]
  exact charOfPoint?_toNat c

end Hex

namespace Quoted

variable {quote : Char} {c : Char} {s : Text}

-- The three widths in which a code point is written.
theorem codeEscape_cases (c : Char) :
    ∃ letter width, codeEscape c.toNat = '\\' :: letter :: hexFixed width c.toNat ∧
      c.toNat < 16 ^ width ∧ (letter, width) ∈ [('x', 2), ('u', 4), ('U', 8)] := by
  have hbound : c.toNat < 16 ^ 8 := Nat.lt_of_lt_of_le c.val.toNat_lt (by decide)
  unfold codeEscape
  split_ifs with h h'
  · exact ⟨_, _, rfl, h, by decide⟩
  · exact ⟨_, _, rfl, h', by decide⟩
  · exact ⟨_, _, rfl, hbound, by decide⟩

theorem toNat_lt_of_mem_codeEscape {d : Char} (hd : d ∈ codeEscape c.toNat) : d.toNat < 128 := by
  have hhex : ∀ d ∈ "0123456789abcdef".toList, d.toNat < 128 := by decide
  obtain ⟨letter, width, heq, -, hm⟩ := codeEscape_cases c
  have hletter : letter.toNat < 128 := by
    have hall : ∀ e ∈ [('x', 2), ('u', 4), ('U', 8)], e.1.toNat < 128 := by decide
    exact hall _ hm
  rw [heq] at hd
  rcases List.mem_cons.mp hd with rfl | hd
  · decide
  rcases List.mem_cons.mp hd with rfl | hd
  · exact hletter
  · exact hhex d (mem_of_mem_hexFixed hd)

-- How a character is written between quotes: after a backslash, by its code point, or as it is.
theorem escapeChar_cases (quote c : Char) :
    (∃ d, escapeChar quote c = ['\\', d] ∧
      (d = c ∧ (c = quote ∨ c = '\\') ∨ (c, d) ∈ [('\n', 'n'), ('\r', 'r'), ('\t', 't')])) ∨
      escapeChar quote c = codeEscape c.toNat ∨
      escapeChar quote c = [c] ∧ c ≠ quote ∧ c ≠ '\\' := by
  unfold escapeChar
  split_ifs with h hline hreturn htab
  · exact .inl ⟨c, rfl, .inl ⟨rfl, h⟩⟩
  · exact .inl ⟨_, rfl, .inr (by simp [hline])⟩
  · exact .inl ⟨_, rfl, .inr (by simp [hreturn])⟩
  · exact .inl ⟨_, rfl, .inr (by simp [htab])⟩
  · exact .inr (.inr ⟨rfl, not_or.mp h⟩)
  · exact .inr (.inl rfl)

end Quoted

namespace Host

open Quoted

section Close

variable {quote : Char} {c : Char} {s : Text}

def afterPart (part : Text) : Text × Text → Text × Text
  | (body, tail) => (part ++ body, tail)

theorem closeString_cons (hquote : c ≠ quote) (hslash : c ≠ '\\') :
    closeString quote (c :: s) = (closeString quote s).map (afterPart [c]) := by
  rw [closeString, if_neg hquote]
  · rfl
  · exact fun h _ => hslash h
  · exact fun _ _ h _ => hslash h

theorem closeString_append {part : Text} (hpart : ∀ d ∈ part, d ≠ quote ∧ d ≠ '\\') :
    closeString quote (part ++ s) = (closeString quote s).map (afterPart part) := by
  induction part with
  | nil => exact Option.map_id'.symm
  | cons d part ih =>
      obtain ⟨hd, hrest⟩ := List.forall_mem_cons.mp hpart
      rw [List.cons_append, closeString_cons hd.1 hd.2, ih hrest, Option.map_map]
      rfl

-- No quote that a character is written with closes the string.
theorem closeString_escapeChar (hq : isQuote quote = true) (c : Char) (s : Text) :
    closeString quote (Quoted.escapeChar quote c ++ s) =
      (closeString quote s).map (afterPart (Quoted.escapeChar quote c)) := by
  have hhex : ∀ q, isQuote q = true → ∀ d ∈ "0123456789abcdef".toList, d ≠ q ∧ d ≠ '\\' := by
    intro q hq
    rcases isQuote_iff.mp hq with rfl | rfl <;> decide
  rcases escapeChar_cases quote c with ⟨d, heq, -⟩ | heq | ⟨heq, hquote, hslash⟩
  · rw [heq]
    rfl
  · obtain ⟨letter, width, hcode, -, -⟩ := codeEscape_cases c
    have hplain : ∀ d ∈ Quoted.hexFixed width c.toNat, d ≠ quote ∧ d ≠ '\\' :=
      fun d hd => hhex quote hq d (mem_of_mem_hexFixed hd)
    rw [heq, hcode, List.cons_append, List.cons_append, closeString, closeString_append hplain,
      Option.map_map]
    rfl
  · rw [heq]
    exact closeString_cons hquote hslash

theorem closeString_escaped (hq : isQuote quote = true) (s rest : Text) :
    closeString quote (s.flatMap (Quoted.escapeChar quote) ++ quote :: rest) =
      some (s.flatMap (Quoted.escapeChar quote), rest) := by
  induction s with
  | nil =>
      have hslash : quote ≠ '\\' := by rcases isQuote_iff.mp hq with rfl | rfl <;> decide
      rw [List.flatMap_nil, List.nil_append, closeString, if_pos rfl]
      · exact fun h _ => hslash h
      · exact fun _ _ h _ => hslash h
  | cons c s ih =>
      rw [List.flatMap_cons, List.append_assoc, closeString_escapeChar hq, ih]
      rfl

end Close

section Unescape

variable {quote : Char} {c : Char}

theorem unescapeFrom_length (e s : Text) : unescapeFrom e.length (e ++ s) = unescapeFrom 0 s := by
  induction e with
  | nil => rfl
  | cons c e ih => exact ih

theorem unescapeFrom_slash {e s value : Text} (h : escapeValue? (e ++ s) = some (value, e.length)) :
    unescapeFrom 0 ('\\' :: (e ++ s)) = (unescapeFrom 0 s).map (value ++ ·) := by
  rw [unescapeFrom, if_pos rfl, h]
  change (unescapeFrom e.length (e ++ s)).bind (fun tail => some (value ++ tail)) = _
  rw [unescapeFrom_length]
  cases unescapeFrom 0 s <;> rfl

theorem escapeValue?_hex {letter : Char} {width : Nat}
    (h : (letter, width) ∈ [('x', 2), ('u', 4), ('U', 8)]) (s : Text) :
    escapeValue? (letter :: s) = (hexChar? width s).map fun d => ([d], width + 1) := by
  simp only [List.mem_cons, List.not_mem_nil, or_false, Prod.mk.injEq] at h
  obtain ⟨rfl, rfl⟩ | ⟨rfl, rfl⟩ | ⟨rfl, rfl⟩ := h <;> rfl

theorem unescapeFrom_codeEscape (c : Char) (s : Text) :
    unescapeFrom 0 (codeEscape c.toNat ++ s) = (unescapeFrom 0 s).map ([c] ++ ·) := by
  obtain ⟨letter, width, hcode, hwidth, hm⟩ := codeEscape_cases c
  rw [hcode, List.cons_append]
  refine unescapeFrom_slash ?_
  rw [List.cons_append, escapeValue?_hex hm, hexChar?_hexFixed hwidth, List.length_cons, length_hexFixed]
  rfl

-- How a character that is written between quotes stands there when all others than those of ASCII have
-- been put into escapes.
def unit (quote c : Char) : Text :=
  if c.toNat < 128 then Quoted.escapeChar quote c else codeEscape c.toNat

theorem flatMap_ascii {part : Text} (hpart : ∀ d ∈ part, d.toNat < 128) :
    (part.flatMap fun d => if d.toNat < 128 then [d] else codeEscape d.toNat) = part := by
  induction part with
  | nil => rfl
  | cons d part ih =>
      obtain ⟨hd, hrest⟩ := List.forall_mem_cons.mp hpart
      rw [List.flatMap_cons, if_pos hd, ih hrest]
      rfl

theorem flatMap_escapeChar (hq : isQuote quote = true) (c : Char) :
    ((Quoted.escapeChar quote c).flatMap fun d => if d.toNat < 128 then [d] else codeEscape d.toNat) =
      unit quote c := by
  have hquote : quote.toNat < 128 := by rcases isQuote_iff.mp hq with rfl | rfl <;> decide
  rcases escapeChar_cases quote c with ⟨d, heq, hd⟩ | heq | ⟨heq, -, -⟩
  · have hboth : c.toNat < 128 ∧ d.toNat < 128 := by
      have hall : ∀ e ∈ [('\n', 'n'), ('\r', 'r'), ('\t', 't')], e.1.toNat < 128 ∧ e.2.toNat < 128 := by
        decide
      rcases hd with ⟨rfl, rfl | rfl⟩ | hm
      · exact ⟨hquote, hquote⟩
      · decide
      · exact hall _ hm
    rw [unit, if_pos hboth.1, heq]
    exact flatMap_ascii (by simpa using hboth.2)
  · rw [heq, flatMap_ascii fun d hd => toNat_lt_of_mem_codeEscape hd, unit, heq, ite_self]
  · rw [heq, unit, heq, List.flatMap_singleton]

theorem unescapeFrom_unit (hq : isQuote quote = true) (c : Char) (s : Text) :
    unescapeFrom 0 (unit quote c ++ s) = (unescapeFrom 0 s).map ([c] ++ ·) := by
  unfold unit
  split
  · rcases escapeChar_cases quote c with ⟨d, heq, hd⟩ | heq | ⟨heq, -, hslash⟩
    · have hvalue : escapeValue? (d :: s) = some ([c], 1) := by
        rcases hd with ⟨rfl, rfl | rfl⟩ | hm
        · rcases isQuote_iff.mp hq with rfl | rfl <;> rfl
        · rfl
        · simp only [List.mem_cons, List.not_mem_nil, or_false, Prod.mk.injEq] at hm
          obtain ⟨rfl, rfl⟩ | ⟨rfl, rfl⟩ | ⟨rfl, rfl⟩ := hm <;> rfl
      rw [heq]
      exact unescapeFrom_slash (e := [d]) hvalue
    · rw [heq]
      exact unescapeFrom_codeEscape c s
    · rw [heq, List.singleton_append, unescapeFrom, if_neg hslash]
      rfl
  · exact unescapeFrom_codeEscape c s

-- What is written between quotes is read as it was, whatever characters it is made of.
theorem unescape?_escaped (hq : isQuote quote = true) (s : Text) :
    unescape? (s.flatMap (Quoted.escapeChar quote)) = some s := by
  have hunits : ∀ s : Text, unescapeFrom 0 (s.flatMap (unit quote)) = some s := by
    intro s
    induction s with
    | nil => rfl
    | cons c s ih =>
        rw [List.flatMap_cons, unescapeFrom_unit hq, ih]
        rfl
  rw [unescape?, List.flatMap_assoc]
  simp only [flatMap_escapeChar hq]
  exact hunits s

end Unescape

-- The literal that stands for a text is read as that text, and nothing behind it is.
theorem Token.next_quoted (s rest : Text) (afterPoint : Bool) :
    next afterPoint (Quoted.text s ++ rest) = .ok (.text s, rest) := by
  have hspelled : Quoted.text s ++ rest =
      quoteFor s :: (s.flatMap (Quoted.escapeChar (quoteFor s)) ++ quoteFor s :: rest) := by
    simp [Quoted.text]
  have hclose := closeString_escaped (isQuote_quoteFor s) s rest
  have hread := unescape?_escaped (isQuote_quoteFor s) s
  have hquote := isQuote_iff.mp (isQuote_quoteFor s)
  rw [hspelled]
  generalize quoteFor s = quote at hclose hread hquote
  generalize quote :: rest = behind at hclose
  have hfloat : ∀ t, float? afterPoint (quote :: t) = none := by
    rcases hquote with rfl | rfl <;> exact fun t => by cases afterPoint <;> rfl
  have hrest : ∀ t, int? (quote :: t) = none ∧ (quote :: t).takeWhile isNameChar = [] := by
    rcases hquote with rfl | rfl <;> exact fun t => ⟨rfl, rfl⟩
  simp only [next, hfloat, hrest, if_pos hquote, hclose, hread]

end Host

end BraceTemplate
