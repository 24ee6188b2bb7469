import BraceTemplate.Proofs.Dotted.Quoted
import BraceTemplate.Proofs.Tree.Translate

namespace BraceTemplate.Sigil

-- What may stand between two equal quotes: characters other than that quote and the backslash, and
-- backslashes, each with the character behind it, if that does not end the line.
inductive Enclosed (quote : Char) : Text → Prop where
  | nil : Enclosed quote []
  | char {c : Char} {s : Text} (hquote : c ≠ quote) (hslash : c ≠ '\\') (hs : Enclosed quote s) :
    Enclosed quote (c :: s)
  | pair {c : Char} {s : Text} (hline : c ≠ '\n') (hs : Enclosed quote s) :
    Enclosed quote ('\\' :: c :: s)

-- A part of a text: a chunk in which no quote stands, or a closed string literal.
inductive Part where
  | chunk (s : Text) (plain : ∀ c ∈ s, isQuote c = false)
  | literal (quote : Char) (body : Text) (quoted : isQuote quote = true)
    (enclosed : Enclosed quote body)

def Part.spell : Part → Text
  | .chunk s _ => s
  | .literal quote body _ _ => quote :: (body ++ [quote])

def spellAll (parts : List Part) : Text :=
  parts.flatMap Part.spell

-- Whether a dollar sign with the first character of a name behind it is next.
def startsSigil : Text → Bool
  | '$' :: c :: _ => isNameStart c
  | _ => false

-- What is left of a chunk without the sigils in it. The last character may belong to a name that starts
-- in the text behind.
def without (behind : Text) : Text → Text
  | [] => []
  | c :: s => if startsSigil (c :: (s ++ behind)) then without behind s else c :: without behind s

-- Literals stay as they are, and chunks lose their sigils.
def withoutAll : List Part → Text
  | [] => []
  | .chunk s _ :: parts => without (spellAll parts) s ++ withoutAll parts
  | .literal quote body _ _ :: parts => quote :: (body ++ [quote]) ++ withoutAll parts

section Find

variable {c quote : Char} {s body kept after : Text}

theorem startsSigil_iff : startsSigil s = true ↔ ∃ d rest, s = '$' :: d :: rest ∧ isNameStart d = true := by
  constructor
  · intro h
    unfold startsSigil at h
    split at h
    · exact ⟨_, _, rfl, h⟩
    · cases h
  · rintro ⟨d, rest, rfl, hd⟩
    exact hd

-- A literal is closed by the first quote that no backslash takes along.
theorem closeLiteral_enclosed (hq : isQuote quote = true) (hb : Enclosed quote body) (rest : Text) :
    closeLiteral quote (body ++ quote :: rest) = some (body ++ [quote], rest) := by
  have hplain : ∀ {d : Char}, d ≠ '\\' → ∀ t, closeLiteral quote (d :: t) =
      if d = quote then some ([d], t)
      else (closeLiteral quote t).map fun cut => (d :: cut.1, cut.2) :=
    fun hd t => closeLiteral.eq_4 quote _ t (fun he _ => hd he) fun _ _ he _ => hd he
  have hslash : quote ≠ '\\' := by
    rcases isQuote_iff.mp hq with rfl | rfl <;> decide
  induction hb with
  | nil => rw [List.nil_append, hplain hslash, if_pos rfl, List.nil_append]
  | char hquote hchar _ ih =>
      rw [List.cons_append, hplain hchar, if_neg hquote, ih]
      rfl
  | pair hline _ ih =>
      rw [List.cons_append, List.cons_append, closeLiteral, if_neg hline, ih]
      rfl

theorem find_literal (hq : isQuote quote = true) (hb : Enclosed quote body) (rest : Text) :
    find none (quote :: (body ++ quote :: rest)) = some (quote :: (body ++ [quote]), rest) := by
  have hclose := closeLiteral_enclosed hq hb rest
  rcases isQuote_iff.mp hq with rfl | rfl <;>
    simp [find, hclose]

theorem find_sigil (h : startsSigil (c :: s) = true) : find none (c :: s) = some ([], s) := by
  obtain ⟨d, rest, he, hd⟩ := startsSigil_iff.mp h
  obtain ⟨rfl, rfl⟩ := List.cons.inj he
  rw [find, if_pos hd]

-- Nothing is found where neither a quote nor a sigil is next.
theorem find_eq_none (hc : isQuote c = false) (h : startsSigil (c :: s) = false) :
    find none (c :: s) = none := by
  have hquotes : ¬ (c = '\'' ∨ c = '"') := fun hq => by
    rw [isQuote_iff.mpr hq] at hc
    cases hc
  unfold find
  split
  · next d rest he =>
    rw [he] at h
    exact if_neg (by simpa [startsSigil] using h)
  · next d rest _ he =>
    obtain ⟨rfl, rfl⟩ := List.cons.inj he
    exact if_neg (by simpa using hquotes)
  · rfl

theorem consumes_find : Piece.Consumes find := by
  intro before s kept after h
  have hlength : ∀ (c : Char) (rest : Text),
      (if c = '\'' || c = '"' then
        (closeLiteral c rest).map fun cut => (c :: cut.1, cut.2)
      else none) = some (kept, after) → after.length < (c :: rest).length := by
    intro c rest h
    split at h
    · obtain ⟨⟨body, tail⟩, hclose, he⟩ := Option.map_eq_some_iff.mp h
      obtain ⟨-, rfl⟩ := Prod.mk.inj he
      change tail.length < _
      rw [← closeLiteral_append hclose, List.length_cons, List.length_append]
      omega
    · cases h
  unfold find at h
  split at h
  · split at h
    · obtain ⟨-, rfl⟩ := Prod.mk.inj (Option.some.inj h)
      exact Nat.lt_succ_self _
    · cases h
  · exact hlength _ _ h
  · cases h

end Find

section Strip

variable {c : Char} {s kept after : Text}

theorem strip_of_some (h : find none s = some (kept, after)) : strip s = kept ++ strip after := by
  rw [strip, Piece.scan_eq_cut, Piece.cut_of_some consumes_find h]
  rfl

theorem strip_of_none (h : find none (c :: s) = none) : strip (c :: s) = c :: strip s := by
  rw [strip, Piece.scan_eq_cut, Piece.cut_of_none h, cut_find_eq (some c) none]
  rfl

-- A chunk loses its sigils, and what is behind it is gone through from its start.
theorem strip_chunk (hs : ∀ d ∈ s, isQuote d = false) (behind : Text) :
    strip (s ++ behind) = without behind s ++ strip behind := by
  induction s with
  | nil => rfl
  | cons c s ih =>
      obtain ⟨hc, hrest⟩ := List.forall_mem_cons.mp hs
      rw [List.cons_append, without]
      by_cases hnext : startsSigil (c :: (s ++ behind)) = true
      · rw [strip_of_some (find_sigil hnext), if_pos hnext, ih hrest, List.nil_append]
      · rw [strip_of_none (find_eq_none hc (by simpa using hnext)), if_neg hnext, ih hrest,
          List.cons_append]

theorem strip_literal {quote : Char} {body : Text} (hq : isQuote quote = true)
    (hb : Enclosed quote body) (rest : Text) :
    strip (quote :: (body ++ [quote]) ++ rest) = quote :: (body ++ [quote]) ++ strip rest := by
  have hspelled : quote :: (body ++ [quote]) ++ rest = quote :: (body ++ quote :: rest) := by simp
  rw [hspelled, strip_of_some (find_literal hq hb rest)]

-- Sigils go from the chunks of a text, and from nowhere else: closed string literals are passed over,
-- whatever stands in them.
theorem strip_spellAll (parts : List Part) : strip (spellAll parts) = withoutAll parts := by
  induction parts with
  | nil => rfl
  | cons part parts ih =>
      rw [spellAll, List.flatMap_cons, ← spellAll]
      cases part with
      | chunk s plain => rw [Part.spell, strip_chunk plain, ih, withoutAll]
      | literal quote body hq hb => rw [Part.spell, strip_literal hq hb, ih, withoutAll]

-- Of two dollar signs the second one is a sigil; the one behind an escaped quote is not.
example : strip "$$a ~ '$b\\'$c' ~ \"'$\"$_".toList = "$a ~ '$b\\'$c' ~ \"'$\"_".toList := by decide

end Strip

end BraceTemplate.Sigil
