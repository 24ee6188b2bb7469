import BraceTemplate.Proofs.Insertion.Alone

namespace BraceTemplate

open Text Segment

namespace Tag

variable {body : Text}

-- The last reader counts only for what it reads in the group itself.
theorem readWith_congr {last last' : Text → Option Tag} (h : last body = last' body)
    (readers : List Reader) : readWith readers last body = readWith readers last' body := by
  induction readers with
  | nil => exact h
  | cons reader readers ih =>
      simp only [readWith, List.foldr_cons, orElse] at ih ⊢
      rw [ih]

-- A group that inserts nothing is read by the readers before and behind the insertions.
theorem readWith_append_late (hi : readInsertion body = none) :
    readWith (Reader.early ++ Reader.late) (fun _ => none) body = read body := by
  rw [readWith, List.foldr_append]
  refine readWith_congr ?_ Reader.early
  rw [orElse, hi, Option.none_or]
  rfl

end Tag

namespace Compiler

-- What the extensions make of a text.
def extended (c : Compiler) (s : Text) : Except CompileError Text :=
  c.extensions.foldlM extendAlone s

theorem extended_eq {c : Compiler} (hc : c.extensions = []) (s : Text) : c.extended s = .ok s := by
  rw [extended, hc]
  rfl

section Group

variable {c : Compiler} (fs : FileSystem) {body : Text}

-- The host text of what was read in a group; a group in which nothing was read stays.
def hostOf (body : Text) (found : Option Tag) : Except CompileError Text :=
  match found with
  | some tag => tag.rewrite.mapError .badTag
  | none => .ok (Segment.group body).spell

theorem rewriteAlone_group (reader : Tag.Reader) (hb : body.BraceFree) :
    rewriteAlone (Segment.group body).spell reader.find = hostOf body (reader.read body) := by
  have hs : SoundAll [.group body] := by simpa [Sound] using hb
  have hscan := reader.grouped.scan_spellAll hs
  rw [spellAll_cons, spellAll_nil, List.append_nil] at hscan
  rw [rewriteAlone, hscan]
  cases hread : reader.read body with
  | none =>
      simp only [Tag.piecesOf, hread, List.append_nil]
      exact assemble_chars _ _
  | some tag =>
      simp only [Tag.piecesOf, hread, Piece.assemble, pure_bind, List.append_nil, bind_pure, hostOf]

theorem foldlM_braceFree (readers : List Tag.Reader) {s : Text} (hs : s.BraceFree) :
    (readers.map Tag.Reader.find).foldlM rewriteAlone s = .ok s :=
  foldlM_eq_self fun reader _ =>
    occurs_of_not_mem reader.grouped.outside (braceFree_iff_not_mem.mp hs).1

-- One pass after the other over a group comes to what the first reader that knows it reads in it: the
-- passes behind find no brace in what that reader writes.
theorem foldlM_group (readers : List Tag.Reader) (hb : body.BraceFree) :
    (readers.map Tag.Reader.find).foldlM rewriteAlone (Segment.group body).spell =
      hostOf body (Tag.readWith readers (fun _ => none) body) := by
  induction readers with
  | nil => rfl
  | cons reader readers ih =>
      have hread : Tag.readWith (reader :: readers) (fun _ => none) body =
          (reader.read body).or (Tag.readWith readers (fun _ => none) body) := rfl
      rw [List.map_cons, List.foldlM_cons, rewriteAlone_group reader hb, hread]
      cases hfirst : reader.read body with
      | none => exact ih
      | some tag =>
          rw [Option.some_or, hostOf]
          cases hout : tag.rewrite with
          | error e => rfl
          | ok out =>
              exact foldlM_braceFree readers (Tag.braceFree_rewrite
                (fun s hs => hb.of_subset (reader.texts_subset hfirst s hs)) hout)

-- A template that is one group and inserts nothing becomes the host text of that group, with what is
-- merged in it and what the extensions make of it.
theorem compile_group (hb : body.BraceFree) (hl : Tag.wholeWord ["literal".toList] body = none)
    (hi : Tag.readInsertion body = none) :
    c.compile fs (Segment.group body).spell =
      hostOf body (Tag.read body) >>= fun t => c.extended (Tag.mergeStatements t) := by
  have hs : SoundAll [.group body] := by simpa [Sound] using hb
  have hplain : (Segment.group body).spell.Plain := by
    have h := (plain_spellAll_iff hs).mpr ⟨by simpa using hl, by simpa using hi⟩
    rwa [spellAll_cons, spellAll_nil, List.append_nil] at h
  have hpasses : start (Segment.group body).spell >>= c.finish =
      ((Tag.Reader.early ++ Tag.Reader.late).map Tag.Reader.find).foldlM rewriteAlone
        (Segment.group body).spell >>= fun t => c.extended (Tag.mergeStatements t) := by
    rw [List.map_append, List.foldlM_append, bind_assoc]
    rfl
  rw [compile_plain hplain, hpasses, foldlM_group _ hb, Tag.readWith_append_late hi]

-- A tag whose host text has nothing in it to merge.
theorem compile_tag {tag : Tag} {out : Text} (hb : body.BraceFree)
    (hl : Tag.wholeWord ["literal".toList] body = none) (hi : Tag.readInsertion body = none)
    (hread : Tag.read body = some tag) (hout : tag.rewrite = .ok out) :
    c.compile fs (Segment.group body).spell = c.extended (Tag.mergeStatements out) := by
  rw [compile_group fs hb hl hi, hread, hostOf, hout]
  rfl

end Group

end Compiler

end BraceTemplate
