import BraceTemplate.Proofs.Flat.Plain
import BraceTemplate.Proofs.Tree.Lexeme
import BraceTemplate.Proofs.Tree.Names

namespace BraceTemplate

namespace Sigil

-- What is found does not depend on the character before it.
theorem find_eq (before before' : Option Char) (s : Text) : find before s = find before' s := by
  fun_cases find before s <;> simp_all [find]

theorem cut_find_eq (before before' : Option Char) (s : Text) :
    Piece.cut find before s = Piece.cut find before' s := by
  cases s with
  | nil => rfl
  | cons c s => simp only [Piece.cut, List.length_cons, Piece.scanFrom, find_eq before before']

theorem strip_dollar {c : Char} (hc : isNameStart c = true) (s : Text) :
    strip ('$' :: c :: s) = strip (c :: s) := by
  have hf : find none ('$' :: c :: s) = some ([], c :: s) := by simp [find, hc]
  have hscan : Piece.scan find ('$' :: c :: s) = .hit [] :: Piece.scan find (c :: s) := by
    simp only [Piece.scan, List.length_cons, Piece.scanFrom, hf]
  rw [strip, hscan]
  rfl

-- What is neither a dollar sign nor a quote stays.
theorem strip_append {s : Text} (hs : ∀ c ∈ s, c ≠ '$' ∧ c ≠ '\'' ∧ c ≠ '"') (t : Text) :
    strip (s ++ t) = s ++ strip t := by
  have hnone : ∀ a c b, s = a ++ c :: b → ∀ before, find before (c :: (b ++ t)) = none := by
    intro a c b he before
    obtain ⟨hd, hq, hqq⟩ := hs c (by simp [he])
    unfold find
    split <;> simp_all
  rw [strip, Piece.scan_eq_cut, Piece.cut_append_of_none s t none hnone, cut_find_eq _ none,
    List.flatMap_append]
  simp [List.flatMap_map, strip, Piece.scan_eq_cut]

theorem strip_name_append {x : Text} (hx : isName x = true) (t : Text) :
    strip ('$' :: (x ++ t)) = x ++ strip t := by
  obtain ⟨c, rest, rfl, hc, hpart⟩ := isName_iff.mp hx
  have hplain : ∀ d ∈ c :: rest, d ≠ '$' ∧ d ≠ '\'' ∧ d ≠ '"' := by
    intro d hd
    have hp := hpart d hd
    refine ⟨?_, ?_, ?_⟩ <;> (rintro rfl; exact absurd hp (by decide))
  rw [← strip_append hplain t]
  exact strip_dollar hc (rest ++ t)

theorem strip_name {x : Text} (hx : isName x = true) : strip ('$' :: x) = x := by
  simpa [strip, Piece.scan_eq_cut] using strip_name_append hx []

theorem strip_variable {x : Text} (hx : isVariable x = true) : strip ('$' :: x) = x :=
  strip_name (isName_of_variable hx)

end Sigil

namespace LoopClause

-- White space comes before the word that the names follow.
theorem cutAtAs_append {s : Text} (hs : ∀ c ∈ s, isBlank c = false) (t : Text) :
    cutAtAs (s ++ t) = (cutAtAs t).map fun (before, target) => (s ++ before, target) := by
  induction s with
  | nil => simp
  | cons c s ih =>
      have hc : isBlank c = false := hs c (by simp)
      have hnone : afterAs? (c :: (s ++ t)) = none := by simp [afterAs?, hc]
      rw [List.cons_append, cutAtAs.eq_def]
      simp only [hnone, ih fun d hd => hs d (List.mem_cons_of_mem _ hd), Option.map_map]
      rfl

theorem cutAtAs_subject {x : Text} (hx : isVariable x = true) (binder : Binder) :
    cutAtAs ('$' :: (x ++ ' ' :: 'a' :: 's' :: ' ' :: binder.clause)) =
      some ('$' :: x, binder.clause) := by
  have hblank : ∀ c ∈ '$' :: x, isBlank c = false := by
    simpa using ⟨by decide, not_isBlank_of_variable hx⟩
  have hcut : cutAtAs (' ' :: 'a' :: 's' :: ' ' :: binder.clause) = some ([], binder.clause) := by
    cases binder <;> rfl
  rw [← List.cons_append, cutAtAs_append hblank, hcut]
  simp

end LoopClause

namespace Binder

-- A clause ends in a name.
theorem exists_of_clause (binder : Binder) (hb : binder.isValid = true) :
    ∃ front v, isVariable v = true ∧ binder.clause = front ++ v := by
  cases binder with
  | value v => exact ⟨['$'], v, hb, rfl⟩
  | pair k v =>
      simp only [isValid, Bool.and_eq_true] at hb
      exact ⟨'$' :: (k ++ [' ', '=', '>', ' ', '$']), v, hb.1.2, by simp [clause]⟩

-- What a loop over a variable runs over and binds.
def loopClause (x : Text) : Binder → LoopClause
  | .value v => .values x v
  | .pair k v => .pairs x k v

theorem ofText_subject {x : Text} (hx : isVariable x = true) {binder : Binder}
    (hb : binder.isValid = true) :
    LoopClause.ofText ('$' :: (x ++ ' ' :: 'a' :: 's' :: ' ' :: binder.clause)) =
      binder.loopClause x := by
  have hdollar : isBlank '$' = false := by decide
  have hitems : Text.trim ('$' :: x) = '$' :: x :=
    Text.trim_eq_self (s := []) hdollar (ne_nil_of_variable hx) (not_isBlank_of_variable hx)
  simp only [LoopClause.ofText, LoopClause.cutAtAs_subject hx binder, hitems,
    Sigil.strip_variable hx]
  cases binder with
  | value v =>
      have hv : isVariable v = true := hb
      have hno : '=' ∉ v := not_mem_of_variable hv (by decide)
      have htrim : Text.trim ('$' :: v) = '$' :: v :=
        Text.trim_eq_self (s := []) hdollar (ne_nil_of_variable hv) (not_isBlank_of_variable hv)
      have hcut : Text.cutAtText ['=', '>'] v = none := Text.cutAtText_eq_none hno
      simp [clause, htrim, Sigil.strip_variable hv, loopClause, hcut]
  | pair k v =>
      simp only [isValid, Bool.and_eq_true] at hb
      obtain ⟨⟨hk, hv⟩, -⟩ := hb
      have hno : '=' ∉ k ++ [' '] := by
        simpa using not_mem_of_variable hk (by decide)
      have htrim : Text.trim (clause (.pair k v)) = clause (.pair k v) := by
        have h := Text.trim_eq_self (s := k ++ [' ', '=', '>', ' ', '$']) hdollar
          (ne_nil_of_variable hv) (not_isBlank_of_variable hv)
        simpa [clause] using h
      have hstrip : Sigil.strip (clause (.pair k v)) = k ++ [' '] ++ '=' :: (['>'] ++ ' ' :: v) := by
        have hmid : ∀ c ∈ [' ', '=', '>', ' '], c ≠ '$' ∧ c ≠ '\'' ∧ c ≠ '"' := by decide
        have h := Sigil.strip_append hmid ('$' :: v)
        simp only [List.cons_append, List.nil_append] at h
        rw [clause, Sigil.strip_name_append (isName_of_variable hk), h, Sigil.strip_variable hv]
        simp
      have hcut : Text.cutAtText ['=', '>'] (k ++ [' '] ++ '=' :: (['>'] ++ ' ' :: v)) = _ :=
        Text.cutAtText_append hno
      have hkey := Text.trim_append_blank (not_isBlank_of_variable hk) (b := ' ') (by decide)
      have hvalue : Text.trim (' ' :: v) = v := by
        rw [Text.trim_blank_cons (by decide),
          Text.trim_eq_self_of_forall (not_isBlank_of_variable hv)]
      simp only [htrim, hstrip, loopClause, show "=>".toList = ['=', '>'] from rfl, hcut, hkey,
        hvalue]

end Binder

namespace Host

open Lexeme

theorem escaped_eq (x : Text) : escaped x = outputOf (filtered x "e") := by
  simp [escaped, outputOf, Lexeme.spellAll, filtered, enclosed, Lexeme.spell, word]

theorem statement_test (keyword : String) (x : Text) :
    statement (keyword.toList ++ ' ' :: '(' :: (x ++ [')'])) = statementOf (test keyword x) := by
  simp [statementOf, Lexeme.spellAll, test, enclosed, Lexeme.spell, word]

theorem statement_loop (x : Text) (binder : Binder) :
    statement ("for ".toList ++ Tag.loopHead (binder.loopClause x)) = statementOf (loop x binder) := by
  cases binder <;>
    simp [statementOf, Lexeme.spellAll, loop, target, source, filtered, enclosed, Lexeme.spell, word,
      Binder.loopClause, Tag.loopHead]

end Host

namespace Tag

open Host Lexeme

theorem translate_cons {segment : Segment} {rest : List Segment} {x y : Text}
    (hx : translateSegment segment = .ok x) (hy : translate rest = .ok y) :
    translate (segment :: rest) = .ok (x ++ y) :=
  translate_cons_eq_ok.mpr ⟨x, y, hx, hy, rfl⟩

theorem translate_append {a b : List Segment} {x y : Text} (hx : translate a = .ok x)
    (hy : translate b = .ok y) : translate (a ++ b) = .ok (x ++ y) :=
  translate_append_eq_ok.mpr ⟨x, y, hx, hy, rfl⟩

theorem translateSegment_of_read {body : Text} {tag : Tag} (h : read body = some tag) :
    translateSegment (.group body) = tag.rewrite := by
  simp only [translateSegment, translateGroup, h]

section Groups

variable {x : Text}

theorem trim_variable (hx : isVariable x = true) : Text.trim ('$' :: x) = '$' :: x :=
  Text.trim_eq_self (s := []) (by decide) (ne_nil_of_variable hx) (not_isBlank_of_variable hx)

-- A variable is no path, for nothing in it is a dot.
theorem translateSegment_output (hx : isVariable x = true) :
    translateSegment (.group ('$' :: x)) = .ok (outputOf (filtered x "e")) := by
  have hpath : readPath ('$' :: x) = none := by
    have hdot : '.' ∉ x := not_mem_of_variable hx (by decide)
    simp [readPath, Text.split_eq_singleton hdot]
  have hread : read ('$' :: x) = some (.interpolation ('$' :: x)) := by
    change (readPath ('$' :: x)).or (some (.interpolation (Text.trim ('$' :: x)))) = _
    rw [hpath, Option.none_or, trim_variable hx]
  rw [translateSegment_of_read hread, rewrite, Sigil.strip_variable hx, escaped_eq]

theorem translateSegment_if (hx : isVariable x = true) :
    translateSegment (.ofIf x) = .ok (statementOf (test "if" x)) := by
  have hread : read ('i' :: 'f' :: ' ' :: '$' :: x) =
      some (.opening "if".toList (Text.trim ('$' :: x))) := rfl
  have hlower : lowerText "if".toList = "if".toList := rfl
  rw [Segment.ofIf, translateSegment_of_read hread, trim_variable hx, rewrite, hlower,
    ← statement_test]
  simp [openBlock, Sigil.strip_variable hx]

theorem translateSegment_elseif (hx : isVariable x = true) :
    translateSegment (.ofElseif x) = .ok (statementOf (test "elif" x)) := by
  have hread : read ('e' :: 'l' :: 's' :: 'e' :: 'i' :: 'f' :: ' ' :: '$' :: x) =
      some (.elseif (Text.trim ('$' :: x))) := rfl
  rw [Segment.ofElseif, translateSegment_of_read hread, trim_variable hx, rewrite,
    Sigil.strip_variable hx, ← statement_test]
  rfl

theorem translateSegment_foreach (hx : isVariable x = true) {binder : Binder}
    (hb : binder.isValid = true) :
    translateSegment (.ofForeach x binder) = .ok (statementOf (loop x binder)) := by
  have htrim : Text.trim ('$' :: (x ++ ' ' :: 'a' :: 's' :: ' ' :: binder.clause)) =
      '$' :: (x ++ ' ' :: 'a' :: 's' :: ' ' :: binder.clause) := by
    obtain ⟨front, v, hv, he⟩ := binder.exists_of_clause hb
    have h := Text.trim_eq_self (c := '$') (s := x ++ ' ' :: 'a' :: 's' :: ' ' :: front) (by decide)
      (ne_nil_of_variable hv) (not_isBlank_of_variable hv)
    simpa [he] using h
  have hread : read ('f' :: 'o' :: 'r' :: 'e' :: 'a' :: 'c' :: 'h' :: ' ' :: '$' ::
      (x ++ ' ' :: 'a' :: 's' :: ' ' :: binder.clause)) =
      some (.opening "foreach".toList
        (Text.trim ('$' :: (x ++ ' ' :: 'a' :: 's' :: ' ' :: binder.clause)))) := rfl
  rw [Segment.ofForeach, translateSegment_of_read hread, htrim, rewrite, ← statement_loop,
    ← Binder.ofText_subject hx hb]
  rfl

theorem translateSegment_else :
    translateSegment (.group "else".toList) = .ok (statementOf [word "else"]) := rfl

theorem translateSegment_endif :
    translateSegment (.group "/if".toList) = .ok (statementOf [word "endif"]) := rfl

theorem translateSegment_endfor :
    translateSegment (.group "/foreach".toList) = .ok (statementOf [word "endfor"]) := rfl

end Groups

end Tag

mutual

theorem Tree.translate_segments (t : Tree) (ht : t.isValid = true) :
    Tag.translate t.segments = .ok t.host := by
  cases t with
  | done => rfl
  | chunk s rest =>
      simp only [Tree.isValid, Bool.and_eq_true] at ht
      exact Tag.translate_append (Tag.translate_chars s) (rest.translate_segments ht.2)
  | output x rest =>
      simp only [Tree.isValid, Bool.and_eq_true] at ht
      exact Tag.translate_cons (Tag.translateSegment_output ht.1) (rest.translate_segments ht.2)
  | choose x body more rest =>
      simp only [Tree.isValid, Bool.and_eq_true] at ht
      obtain ⟨⟨⟨hx, hbody⟩, hmore⟩, hrest⟩ := ht
      exact Tag.translate_cons (Tag.translateSegment_if hx)
        (Tag.translate_append (body.translate_segments hbody)
          (Tag.translate_append (more.translate_segments hmore)
            (Tag.translate_cons Tag.translateSegment_endif (rest.translate_segments hrest))))
  | each x binder body rest =>
      simp only [Tree.isValid, Bool.and_eq_true] at ht
      obtain ⟨⟨⟨hx, hb⟩, hbody⟩, hrest⟩ := ht
      exact Tag.translate_cons (Tag.translateSegment_foreach hx hb)
        (Tag.translate_append (body.translate_segments hbody)
          (Tag.translate_cons Tag.translateSegment_endfor (rest.translate_segments hrest)))

theorem Branches.translate_segments (b : Branches) (hb : b.isValid = true) :
    Tag.translate b.segments = .ok b.host := by
  cases b with
  | done => rfl
  | otherwise body => exact Tag.translate_cons Tag.translateSegment_else (body.translate_segments hb)
  | elseif x body more =>
      simp only [Branches.isValid, Bool.and_eq_true] at hb
      obtain ⟨⟨hx, hbody⟩, hmore⟩ := hb
      exact Tag.translate_cons (Tag.translateSegment_elseif hx)
        (Tag.translate_append (body.translate_segments hbody) (more.translate_segments hmore))

end

end BraceTemplate
