import BraceTemplate.Proofs.Fault.Compile
import BraceTemplate.Proofs.Insertion.Ring

namespace BraceTemplate

open Text Segment

section Lift

variable {α : Type}

theorem Piece.assemble_congr {m : Type → Type} [Monad m] {emit emit' : α → m Text}
    {pieces : List (Piece α)} (h : ∀ a, .hit a ∈ pieces → emit a = emit' a) :
    assemble emit pieces = assemble emit' pieces := by
  induction pieces with
  | nil => rfl
  | cons piece pieces ih =>
      have ih := ih fun a hm => h a (List.mem_cons_of_mem _ hm)
      cases piece with
      | char c => rw [assemble, assemble, ih]
      | hit a => rw [assemble, assemble, ih, h a (by simp)]

-- What a recogniser finds in a text, it finds at some place of it.
theorem Piece.exists_of_mem_scan {find : Recogniser α} {s : Text} {a : α}
    (h : .hit a ∈ scan find s) : ∃ before rest after, find before rest = some (a, after) := by
  suffices ∀ fuel before s, .hit a ∈ scanFrom find fuel before s →
      ∃ before rest after, find before rest = some (a, after) from this _ _ _ h
  intro fuel
  induction fuel with
  | zero => intro before s h; cases s <;> cases h
  | succ fuel ih =>
      intro before s h
      cases s with
      | nil => cases h
      | cons c s =>
          rw [scanFrom] at h
          split at h
          · next value after hfind =>
            rcases List.mem_cons.mp h with he | h
            · cases he
              exact ⟨before, c :: s, after, hfind⟩
            · exact ih _ _ h
          · exact ih _ _ (by simpa using h)

-- Texts come together without the vault where none of them needs it.
theorem assemble_liftM (emit : α → Except CompileError Text) (pieces : List (Piece α)) :
    Piece.assemble (fun a => (liftM (emit a) : CompileM Text)) pieces =
      liftM (Piece.assemble emit pieces) := by
  induction pieces with
  | nil => rw [Piece.assemble, Piece.assemble, liftM_pure]
  | cons piece pieces ih =>
      cases piece with
      | char c => simp only [Piece.assemble, ih, liftM_bind, liftM_pure]
      | hit a => simp only [Piece.assemble, ih, liftM_bind, liftM_pure]

theorem foldlM_liftM {step : Text → α → CompileM Text} {alone : Text → α → Except CompileError Text}
    {items : List α} (h : ∀ a ∈ items, ∀ s, step s a = liftM (alone s a)) (s : Text) :
    items.foldlM step s = (liftM (items.foldlM alone s) : CompileM Text) := by
  induction items generalizing s with
  | nil => simp only [List.foldlM_nil, liftM_pure]
  | cons a items ih =>
      have ih := ih fun b hm => h b (List.mem_cons_of_mem _ hm)
      simp only [List.foldlM_cons, h a (by simp), ih, liftM_bind]

end Lift

namespace Tag

theorem read_eq_none_of_readWith {readers : List Reader} {last : Text → Option Tag} {body : Text}
    (h : readWith readers last body = none) : ∀ reader ∈ readers, reader.read body = none := by
  induction readers with
  | nil => simp
  | cons reader readers ih =>
      simp only [readWith, List.foldr_cons, orElse, Option.or_eq_none_iff] at h
      exact List.forall_mem_cons.mpr ⟨h.1, ih h.2⟩

end Tag

namespace Compiler

-- A pass over a text for tags that insert nothing.
def rewriteAlone (s : Text) (find : Recogniser Tag) : Except CompileError Text :=
  Piece.assemble (fun tag => tag.rewrite.mapError CompileError.badTag) (Piece.scan find s)

def extendAlone (s : Text) (e : Extension) : Except CompileError Text :=
  Piece.assemble (fun found => (e.replace found).mapError CompileError.badReplacement)
    (Pattern.scan e.mode e.pattern s)

-- What is done before insertions are looked for.
def start (s : Text) : Except CompileError Text :=
  (Tag.Reader.early.map Tag.Reader.find).foldlM rewriteAlone s

-- What is done behind the insertions: the tags that are left, and the extensions.
def finish (c : Compiler) (s : Text) : Except CompileError Text := do
  let text ← (Tag.Reader.late.map Tag.Reader.find).foldlM rewriteAlone s
  c.extensions.foldlM extendAlone (Tag.mergeStatements text)

section Passes

variable {c : Compiler} {fs : FileSystem} {insert : List Text → CompileM Text} {s t : Text}

theorem rewriteKind_reader (reader : Tag.Reader) (s : Text) :
    rewriteKind insert s reader.find = liftM (rewriteAlone s reader.find) := by
  rw [rewriteAlone, ← assemble_liftM]
  refine Piece.assemble_congr fun tag hm => ?_
  obtain ⟨before, rest, after, h⟩ := Piece.exists_of_mem_scan hm
  obtain ⟨body, -, -, hread⟩ := reader.grouped.exists_group h
  exact Tag.rewriteTag_of_direct (reader.direct hread)

theorem foldlM_readers (readers : List Tag.Reader) (s : Text) :
    (readers.map Tag.Reader.find).foldlM (rewriteKind insert) s =
      liftM ((readers.map Tag.Reader.find).foldlM rewriteAlone s) := by
  refine foldlM_liftM (fun find hm s => ?_) s
  obtain ⟨reader, -, rfl⟩ := List.mem_map.mp hm
  exact rewriteKind_reader reader s

theorem foldlM_extensions (extensions : List Extension) (s : Text) :
    extensions.foldlM rewriteExtension s = (liftM (extensions.foldlM extendAlone s) : CompileM Text) :=
  foldlM_liftM (fun _ _ _ => assemble_liftM _ _) s

-- Only insertions need more than the text itself.
theorem run_rewriteWith_alone (hs : s.Bare) (v : Vault) :
    (c.rewriteWith insert s).run v =
      ((liftM (start s) : CompileM Text) >>= fun s =>
        rewriteKind insert s Tag.insertion? >>= fun s => liftM (c.finish s)).run v := by
  simp only [run_rewriteWith_bare hs, foldlM_readers, foldlM_extensions, start, finish, liftM_bind]

theorem follows_of_start (h : start s = .ok t) : Follows s t := by
  have hsteps : Steps s ((Tag.Reader.early.map Tag.Reader.find).foldlM
      (rewriteKind fun _ => pure []) s) :=
    steps_foldlM (fun reader hm => List.mem_append_left _ hm) s
  rw [foldlM_readers, ← start, h] at hsteps
  rcases hsteps with ⟨u, hu, hst⟩ | ⟨body, e, -, -, he⟩
  · have hrun := congrArg (fun m : CompileM Text => m.run .empty) hu
    cases hrun
    exact hst
  · have hrun := congrArg (fun m : CompileM Text => m.run .empty) he
    cases hrun

theorem rewriteAlone_eq_self {find : Recogniser Tag} (h : occurs find s = false) :
    rewriteAlone s find = .ok s := by
  rw [rewriteAlone, scan_eq_chars h, assemble_chars]
  rfl

theorem foldlM_eq_self {readers : List Tag.Reader}
    (h : ∀ reader ∈ readers, occurs reader.find s = false) :
    (readers.map Tag.Reader.find).foldlM rewriteAlone s = .ok s := by
  refine foldlM_eq_pure fun find hm => ?_
  obtain ⟨reader, hreader, rfl⟩ := List.mem_map.mp hm
  exact rewriteAlone_eq_self (h reader hreader)

-- A text without insertions goes through the tags and the extensions, at any depth.
theorem run_rewriteAt_plain (hs : s.Plain) (depth : Nat) (v : Vault) :
    (c.rewriteAt fs depth s).run v = (start s >>= c.finish).map (·, v) := by
  rw [rewriteAt_eq, run_rewriteWith_alone ⟨hs.flat, hs.noLiteral⟩]
  cases h : start s with
  | error e => rfl
  | ok t =>
      have hnone := occurs_insertion?_of_follows (follows_of_start h) hs.noInsertion
      change (rewriteKind _ t Tag.insertion? >>= fun s => liftM (c.finish s)).run v = _
      rw [rewriteKind_eq_pure hnone, pure_bind, run_liftM]
      rfl

theorem compile_plain (hs : s.Plain) : c.compile fs s = start s >>= c.finish := by
  rw [compile, run_rewriteAt_plain hs]
  cases start s >>= c.finish <;> rfl

end Passes

section Insertion

variable {c : Compiler} {fs : FileSystem} {body list b : Text} {insert : List Text → CompileM Text}

-- An insertion that stands alone is not touched before it is looked for.
theorem start_insertion (hb : body.BraceFree) (hread : Tag.readInsertion body = some (.insertion list)) :
    start (Segment.group body).spell = .ok (Segment.group body).spell := by
  have hs : SoundAll [.group body] := by simpa [Sound] using hb
  refine foldlM_eq_self fun reader hm => ?_
  have hoccurs := reader.grouped.occurs_eq_false_iff hs
  rw [spellAll_cons, spellAll_nil, List.append_nil] at hoccurs
  refine hoccurs.mpr ?_
  rintro other (_ | ⟨_, hother⟩)
  · exact Tag.Reader.read_eq_none_of_readInsertion hread hm
  · cases hother

theorem rewriteKind_insertion (hb : body.BraceFree)
    (hread : Tag.readInsertion body = some (.insertion list)) :
    rewriteKind insert (Segment.group body).spell Tag.insertion? = insert (Reference.ofList list) := by
  have hs : SoundAll [.group body] := by simpa [Sound] using hb
  have hscan := Tag.grouped_insertion.scan_spellAll hs
  rw [spellAll_cons, spellAll_nil, List.append_nil] at hscan
  rw [rewriteKind, hscan]
  simp only [Tag.piecesOf, hread, Piece.assemble, rewriteTag, pure_bind, List.append_nil, bind_pure]

theorem bare_group (hb : body.BraceFree) (hl : Tag.wholeWord ["literal".toList] body = none) :
    (Segment.group body).spell.Bare := by
  have hs : SoundAll [.group body] := by simpa [Sound] using hb
  have h := (bare_spellAll_iff hs).mpr (by simpa using hl)
  rwa [spellAll_cons, spellAll_nil, List.append_nil] at h

theorem braceFree_listed (hlist : ∀ l ∈ list, Tag.isListChar l = true) :
    BraceFree ("include ".toList ++ list) := by
  rw [braceFree_append]
  exact ⟨by decide, Tag.braceFree_of_isListChar hlist⟩

theorem bare_insertionTag (hlist : ∀ l ∈ list, Tag.isListChar l = true) :
    (Tag.insertionTag list).Bare :=
  bare_group (braceFree_listed hlist) rfl

theorem insertAt_of_readAll {references : List Text} (hb : c.readAll fs references = .ok b)
    (depth : Nat) : c.insertAt fs (depth + 1) references = c.rewriteAt fs depth b := by
  simp only [insertAt, hb]
  rfl

-- What is inserted by a tag that stands alone goes through what is done behind insertions.
theorem rewriteAt_insertion (hb : body.BraceFree)
    (hl : Tag.wholeWord ["literal".toList] body = none)
    (hread : Tag.readInsertion body = some (.insertion list)) (depth : Nat) :
    c.rewriteAt fs depth (Segment.group body).spell =
      c.insertAt fs depth (Reference.ofList list) >>= fun s => liftM (c.finish s) := by
  have hinsertion : rewriteKind (c.insertAt fs depth) (Segment.group body).spell Tag.insertion? =
      c.insertAt fs depth (Reference.ofList list) := rewriteKind_insertion hb hread
  refine StateT.ext fun v => ?_
  rw [rewriteAt_eq, run_rewriteWith_alone (bare_group hb hl), start_insertion hb hread, ← hinsertion]
  rfl

theorem rewriteAt_insertionTag (hlist : ∀ l ∈ list, Tag.isListChar l = true) (depth : Nat) :
    c.rewriteAt fs depth (Tag.insertionTag list) =
      c.insertAt fs depth (Reference.ofList list) >>= fun s => liftM (c.finish s) :=
  rewriteAt_insertion (braceFree_listed hlist) rfl (Tag.readInsertion_list hlist) depth

end Insertion

end Compiler

end BraceTemplate
