import BraceTemplate.Data.Dump
import BraceTemplate.Data.Pretty
import BraceTemplate.Proofs.Tree.Compile

namespace BraceTemplate

open Host Lexeme

-- The tags that show the value of a variable.
inductive Showing where
  | plain
  | short
  | dump
  | print
  deriving DecidableEq

namespace Showing

-- How a tag is written between braces.
def body (x : Text) : Showing → Text
  | .plain => '$' :: x
  | .short => ':' :: '$' :: x
  | .dump => 'd' :: 'u' :: 'm' :: 'p' :: ' ' :: '$' :: x
  | .print => 'p' :: 'r' :: 'i' :: 'n' :: 't' :: ' ' :: '$' :: x

def source (tag : Showing) (x : Text) : Text :=
  Segment.spellAll [.group (tag.body x)]

-- What is put out in front of a value and behind it.
def opening : Showing → Text
  | .plain => []
  | .short => []
  | .dump => "<pre>".toList
  | .print => "<pre>".toList

def closing : Showing → Text
  | .plain => []
  | .short => []
  | .dump => "</pre>".toList
  | .print => "</pre>".toList

-- The filters that the value goes through, the first one first.
def filters : Showing → List String
  | .plain => ["e"]
  | .short => ["e"]
  | .dump => ["dump", "e"]
  | .print => ["pformat", "e"]

-- The text of a value that is shown.
def text : Showing → Datum → Text
  | .plain, d => d.printed
  | .short, d => d.printed
  | .dump, d => d.dump 0
  | .print, d => d.pretty

end Showing

namespace Host

namespace Lexeme

-- A name to which filters are applied one after the other.
def piped (x : Text) (filters : List String) : List Lexeme :=
  enclosed x ++ filters.flatMap fun w => [.blank, .mark .pipe, .blank, word w]

theorem sound_piped {x : Text} (hx : isVariable x = true) {filters : List String}
    (hf : ∀ w ∈ filters, isName w.toList = true) : (piped x filters).all isSound = true := by
  simpa [piped, enclosed, word, isName_of_variable hx] using hf

end Lexeme

end Host

namespace Showing

def host (tag : Showing) (x : Text) : Text :=
  tag.opening ++ (outputOf (piped x tag.filters) ++ tag.closing)

theorem sound_piped (tag : Showing) {x : Text} (hx : isVariable x = true) :
    (piped x tag.filters).all isSound = true :=
  Lexeme.sound_piped hx (by cases tag <;> decide)

end Showing

namespace Tag

-- A variable has no end that could be stripped.
theorem trimStatementEnd_variable {x : Text} (hx : isVariable x = true) :
    Text.trimStatementEnd ('$' :: x) = '$' :: x := by
  have hblank : ∀ c ∈ '$' :: x, isBlank c = false := by
    simpa using ⟨by decide, not_isBlank_of_variable hx⟩
  have hkept : Text.trimRight ('$' :: x) = '$' :: x := Text.dropTail_eq_self hblank
  have hlast : ('$' :: x).getLast? ≠ some ';' := by
    intro h
    have hmem : ';' ∈ '$' :: x := List.mem_of_getLast? h
    simp only [List.mem_cons] at hmem
    exact hmem.elim (by decide) (not_mem_of_variable hx (by decide))
  simp only [Text.trimStatementEnd, hkept, if_neg hlast]

theorem preformatted_eq (x : Text) (filter : String) :
    preformatted x filter.toList =
      "<pre>".toList ++ (outputOf (piped x [filter, "e"]) ++ "</pre>".toList) := by
  simp [preformatted, outputOf, Lexeme.spellAll, piped, enclosed, Lexeme.spell, word]

theorem translateSegment_showing (tag : Showing) {x : Text} (hx : isVariable x = true) :
    translateSegment (.group (tag.body x)) = .ok (tag.host x) := by
  have hshown : Text.trim (Text.trimStatementEnd ('$' :: x)) = '$' :: x := by
    rw [trimStatementEnd_variable hx, trim_variable hx]
  have hbare : Showing.plain.host x = outputOf (piped x ["e"]) := List.append_nil _
  have hpreformatted : ∀ {body : Text} {filter : String},
      translateSegment (.group body) = .ok (preformatted (Sigil.strip ('$' :: x)) filter.toList) →
        translateSegment (.group body) =
          .ok ("<pre>".toList ++ (outputOf (piped x [filter, "e"]) ++ "</pre>".toList)) := fun h => by
    rw [h, Sigil.strip_variable hx, preformatted_eq]
  cases tag with
  | plain => exact (translateSegment_output hx).trans (congrArg Except.ok hbare.symm)
  | short =>
      have hread : read (':' :: '$' :: x) = some (.interpolation ('$' :: x)) :=
        congrArg (fun e => some (Tag.interpolation e)) hshown
      have hrewrite : translateSegment (.group (':' :: '$' :: x)) =
          .ok (Host.escaped (Sigil.strip ('$' :: x))) := translateSegment_of_read hread
      rw [Sigil.strip_variable hx, escaped_eq] at hrewrite
      exact hrewrite.trans (congrArg Except.ok hbare.symm)
  | dump =>
      have hread : read ('d' :: 'u' :: 'm' :: 'p' :: ' ' :: '$' :: x) = some (.dump ('$' :: x)) :=
        congrArg (fun e => some (Tag.dump e)) hshown
      exact hpreformatted (translateSegment_of_read hread)
  | print =>
      have hread : read ('p' :: 'r' :: 'i' :: 'n' :: 't' :: ' ' :: '$' :: x) = some (.print ('$' :: x)) :=
        congrArg (fun e => some (Tag.print e)) hshown
      exact hpreformatted (translateSegment_of_read hread)

-- A mark that is no tag of the host.
theorem Unmerged.mark {c : Char} {s t : Text} (hc : isBlank c = false) (hs : '?' ∉ c :: s)
    (ht : Unmerged t) : Unmerged (c :: s ++ t) where
  fixed before := by rw [mergeFrom_append_of_not_mem hs, ht.fixed]
  apart rest h := by simp [skipBlanks?, hc] at h

end Tag

namespace Showing

theorem unmerged_host (tag : Showing) {x : Text} (hx : isVariable x = true) :
    Tag.Unmerged (tag.host x) := by
  have hpre := Tag.unmerged_nil.mark (c := '<') (s := "/pre>".toList) (by decide) (by decide)
  rw [host]
  cases tag with
  | plain => exact Tag.unmerged_nil.output (sound_piped .plain hx)
  | short => exact Tag.unmerged_nil.output (sound_piped .short hx)
  | dump =>
      exact (hpre.output (sound_piped .dump hx)).mark (c := '<') (s := "pre>".toList) (by decide)
        (by decide)
  | print =>
      exact (hpre.output (sound_piped .print hx)).mark (c := '<') (s := "pre>".toList) (by decide)
        (by decide)

theorem ordinary_body (tag : Showing) {x : Text} (hx : isVariable x = true) :
    Segment.Ordinary (.group (tag.body x)) := by
  refine Segment.ordinary_group ?_ ?_ ?_
  · cases tag <;>
      (simp only [body, Text.braceFree_cons, Segment.braceFree_variable hx]; decide)
  · cases tag <;> rfl
  · cases tag <;> rfl

theorem compile_source {c : Compiler} (hc : c.extensions = []) (fs : FileSystem) (tag : Showing)
    {x : Text} (hx : isVariable x = true) : c.compile fs (tag.source x) = .ok (tag.host x) := by
  have hordinary := tag.ordinary_body hx
  have hs : Segment.SoundAll [.group (tag.body x)] := by simpa using hordinary.sound
  have hplain : (Segment.spellAll [.group (tag.body x)]).Plain := by
    refine (Text.plain_spellAll_iff hs).mpr ⟨fun body hm => ?_, fun body hm => ?_⟩
    · exact hordinary.noLiteral body (List.mem_singleton.mp hm).symm
    · exact hordinary.noInsertion body (List.mem_singleton.mp hm).symm
  have htranslate := Tag.translate_cons (Tag.translateSegment_showing tag hx)
    (show Tag.translate [] = .ok [] from rfl)
  rw [List.append_nil] at htranslate
  rw [source, Compiler.compile_spellAll_eq_ok_iff hc hs hplain]
  exact ⟨_, htranslate, ((tag.unmerged_host hx).fixed none).symm⟩

end Showing

end BraceTemplate
