import BraceTemplate.Proofs.Insertion.Depth
import BraceTemplate.Proofs.Insertion.Insertable

namespace BraceTemplate

open Text Segment

namespace Compiler

-- The files that are read while a text is compiled: those that it lists outside of its literal
-- blocks, and those that are read for them.
inductive Reads (c : Compiler) (fs : FileSystem) : Text → Text → Prop where
  | listed {s list reference file : Text} :
      s.Inserts list → reference ∈ Reference.ofList list → c.resolver.read fs reference = .ok file →
      Reads c fs s file
  | nested {s file inner : Text} : Reads c fs s file → Reads c fs file inner → Reads c fs s inner

section Reads

variable {c : Compiler} {fs : FileSystem}

theorem readAll_eq_ok {references : List Text} {b : Text} (h : c.readAll fs references = .ok b)
    (hfiles : ∀ reference ∈ references, ∀ file, c.resolver.read fs reference = .ok file →
      file.Insertable) :
    b.Insertable ∧ ∀ list, b.Inserts list →
      ∃ reference ∈ references, ∃ file, c.resolver.read fs reference = .ok file ∧
        file.Inserts list := by
  induction references generalizing b with
  | nil =>
      cases h
      refine ⟨insertable_nil, fun list h => ?_⟩
      have hnone : Piece.scan Tag.insertion? (Vault.bare []) = [] := rfl
      rw [Inserts, hnone] at h
      cases h
  | cons reference references ih =>
      simp only [readAll, Except.bind_eq_ok, Except.ok.injEq] at h
      obtain ⟨file, hfile, others, hothers, rfl⟩ := h
      have hfirst := hfiles reference (by simp) file hfile
      obtain ⟨hrest, hlists⟩ := ih hothers fun other hm => hfiles other (List.mem_cons_of_mem _ hm)
      refine ⟨hfirst.append hrest, fun list hlist => ?_⟩
      rcases (inserts_append hfirst hrest).mp hlist with hlist | hlist
      · exact ⟨reference, by simp, file, hfile, hlist⟩
      · obtain ⟨other, hm, found⟩ := hlists list hlist
        exact ⟨other, List.mem_cons_of_mem _ hm, found⟩

-- What is read for the files behind a list is read for a text with that list.
theorem Reads.of_readAll {s list b file : Text}
    (hfiles : ∀ file, c.Reads fs s file → file.Insertable) (hlist : s.Inserts list)
    (hb : c.readAll fs (Reference.ofList list) = .ok b) (h : c.Reads fs b file) :
    c.Reads fs s file := by
  induction h with
  | listed hinner hm hread =>
      obtain ⟨-, hall⟩ := readAll_eq_ok hb fun reference hm file hfile =>
        hfiles file (.listed hlist hm hfile)
      obtain ⟨reference, hr, outer, houter, hin⟩ := hall _ hinner
      exact .nested (.listed hlist hr houter) (.listed hin hm hread)
  | nested _ hinner ih _ => exact .nested (ih hb) hinner

theorem insertable_of_readAll {s list b : Text}
    (hfiles : ∀ file, c.Reads fs s file → file.Insertable) (hlist : s.Inserts list)
    (hb : c.readAll fs (Reference.ofList list) = .ok b) :
    b.Insertable ∧ ∀ file, c.Reads fs b file → file.Insertable :=
  ⟨(readAll_eq_ok hb fun _ hm file hfile => hfiles file (.listed hlist hm hfile)).1,
    fun file h => hfiles file (.of_readAll hfiles hlist hb h)⟩

end Reads

variable {c : Compiler} {fs : FileSystem} {depth : Nat} {references : List Text}
variable {v v' : Vault} {t : Text}

-- What is inserted are the files behind the references, with their tags rewritten.
theorem yields_insertAt_iff (hc : c.extensions = []) :
    Yields (c.insertAt fs depth references) v t v' ↔
      ∃ d b, depth = d + 1 ∧ c.readAll fs references = .ok b ∧
        Yields (Tag.recognisers.foldlM (rewriteKind (c.insertAt fs d)) (v.protect b).1)
          (v.protect b).2 t v' := by
  cases depth with
  | zero =>
      constructor
      · intro h
        cases h
      · rintro ⟨d, b, h, -⟩
        cases h
  | succ depth =>
      rw [insertAt, yields_bind]
      constructor
      · rintro ⟨b, w, hb, h⟩
        rw [yields_lift, Except.mapError_eq_ok] at hb
        obtain ⟨hb, rfl⟩ := hb
        rw [rewriteAt_eq, yields_rewriteWith_iff hc] at h
        exact ⟨depth, b, rfl, hb, h⟩
      · rintro ⟨d, b, hd, hb, h⟩
        cases hd
        rw [← yields_rewriteWith_iff hc, ← rewriteAt_eq] at h
        exact ⟨b, v, yields_lift.mpr ⟨Except.mapError_eq_ok.mpr hb, rfl⟩, h⟩

end Compiler

namespace Tag

-- A host text that the rules behind an insertion leave alone, wherever it is inserted.
def Settled (s : Text) : Prop :=
  Inert s ∧ s.head? ≠ some '?'

section Rewrites

variable {insert : List Text → CompileM Text} {segments : List Segment} {v v' : Vault} {x : Text}

theorem settled_nil : Settled [] :=
  ⟨inert_of_braceFree braceFree_nil, by simp⟩

theorem Settled.append {s t : Text} (hs : Settled s) (ht : Settled t) : Settled (s ++ t) := by
  refine ⟨hs.1.append ht.1, ?_⟩
  cases s with
  | nil => exact ht.2
  | cons c s => exact hs.2

theorem Settled.mergeStatements {s : Text} (hs : Settled s) : Settled (mergeStatements s) :=
  ⟨hs.1.mergeStatements, by rw [Tag.mergeStatements, head?_mergeFrom]; exact hs.2⟩

theorem settled_rewrite {body : Text} {reader : Reader} {tag : Tag} (hb : BraceFree body)
    (hr : reader.read body = some tag) (hx : tag.rewrite = .ok x) : Settled x := by
  have hd := reader.direct hr
  have htexts : ∀ s ∈ tag.texts, BraceFree s := fun s hs => hb.of_subset (reader.texts_subset hr s hs)
  refine ⟨inert_of_braceFree (braceFree_rewrite htexts hx), ?_⟩
  rcases head?_rewrite (by rintro list rfl; exact hd) (by rintro rfl; exact hd) hx with h | h <;>
    simp [h]

-- A text without question marks is settled once its groups are rewritten, if what it inserts is.
theorem Rewrites.settled (hs : SoundAll segments) (hq : '?' ∉ spellAll segments)
    (hinsert : ∀ body list, .group body ∈ segments → readInsertion body = some (.insertion list) →
      ∀ v s w, Yields (insert (Reference.ofList list)) v s w → Settled s)
    (h : Rewrites insert read segments v x v') : Settled x := by
  induction h with
  | nil v => exact settled_nil
  | @char c rest v v' t _ ih =>
      obtain ⟨hc, hs⟩ := (soundAll_cons _ _).mp hs
      simp only [spellAll_cons, spell, List.singleton_append, List.mem_cons, not_or] at hq
      have hfirst : Settled [c] :=
        ⟨inert_of_braceFree (by simpa [BraceFree, Sound] using hc), by simpa using Ne.symm hq.1⟩
      exact hfirst.append (ih hs hq.2 fun body list hm =>
        hinsert body list (List.mem_cons_of_mem _ hm))
  | @keep body rest v v' t hr _ ih =>
      obtain ⟨hb, hs⟩ := (soundAll_cons _ _).mp hs
      rw [spellAll_cons, List.mem_append, not_or] at hq
      have hfirst : Settled (Segment.group body).spell :=
        ⟨inert_group hb (lateRead_eq_none_of_read hr), by simp [spell]⟩
      exact hfirst.append (ih hs hq.2 fun body list hm =>
        hinsert body list (List.mem_cons_of_mem _ hm))
  | @hit body rest tag v w v' out t hr hout _ ih =>
      obtain ⟨hb, hs⟩ := (soundAll_cons _ _).mp hs
      rw [spellAll_cons, List.mem_append, not_or] at hq
      have hfirst : Settled out := by
        rcases exists_reader_of_read hr with ⟨reader, hreader⟩ | hr
        · exact settled_rewrite hb hreader ((yields_rewriteTag_iff (reader.direct hreader)).mp hout).1
        · obtain ⟨list, rfl⟩ := exists_of_readInsertion hr
          exact hinsert body list (by simp) hr _ _ _ hout
      exact hfirst.append (ih hs hq.2 fun body list hm =>
        hinsert body list (List.mem_cons_of_mem _ hm))

end Rewrites

end Tag

namespace Vault

theorem question_not_mem_bare {s : Text} (h : '?' ∉ withoutBlocks s) : '?' ∉ bare s := by
  intro hm
  obtain ⟨piece, hpiece, hm⟩ := List.mem_flatMap.mp hm
  cases piece with
  | char c => exact h (List.mem_flatMap.mpr ⟨.char c, hpiece, hm⟩)
  | hit content => exact absurd (mem_placeholder hm) (by decide)

end Vault

namespace Tag

theorem isBlank_eq_false_of_isListChar {c : Char} (h : isListChar c = true) : isBlank c = false := by
  have hblanks : ∀ n ∈ [9, 10, 11, 12, 13, 28, 29, 30, 31, 32, 0x85, 0xA0, 0x1680, 0x2000, 0x2001,
      0x2002, 0x2003, 0x2004, 0x2005, 0x2006, 0x2007, 0x2008, 0x2009, 0x200A, 0x2028, 0x2029, 0x202F,
      0x205F, 0x3000], isListChar (Char.ofNat n) = false := by
    decide +kernel
  by_contra hblank
  simp only [isBlank, Bool.not_eq_false, Bool.or_eq_true, Bool.and_eq_true, decide_eq_true_eq,
    beq_iff_eq] at hblank
  have hc := hblanks c.toNat (by
    simp only [List.mem_cons, List.not_mem_nil, or_false]
    omega)
  rw [Char.ofNat_toNat, h] at hc
  cases hc

theorem braceFree_of_isListChar {list : Text} (h : ∀ c ∈ list, isListChar c = true) :
    BraceFree list := by
  intro c hc
  rw [isBrace_eq_false_iff]
  constructor <;>
    · rintro rfl
      exact absurd (h _ hc) (by decide)

-- The tag that inserts the files behind a list of references.
def insertionTag (list : Text) : Text :=
  '\x7b' :: ("include ".toList ++ list ++ ['\x7d'])

theorem readInsertion_list {list : Text} (h : ∀ c ∈ list, isListChar c = true) :
    readInsertion ("include ".toList ++ list) = some (.insertion list) := by
  have hword : takeWord "include".toList ("include".toList ++ ' ' :: list) =
      some ("include".toList, ' ' :: list) := takeWord_self (by decide) _
  have htrim : Text.trimLeft (' ' :: list) = list := by
    cases list with
    | nil => rfl
    | cons c list =>
        have hc := isBlank_eq_false_of_isListChar (h c (by simp))
        simp [Text.trimLeft, show isBlank ' ' = true by decide, hc]
  have hall : list.all isListChar = true := by simpa using h
  change (takeWord "include".toList ("include".toList ++ ' ' :: list)).bind _ = _
  rw [hword]
  simp only [Option.bind_some, htrim, hall, if_true]

theorem read_list {list : Text} (h : ∀ c ∈ list, isListChar c = true) :
    read ("include ".toList ++ list) = some (.insertion list) := by
  have hlate : read ("include ".toList ++ list) =
      orElse readInsertion lateRead ("include ".toList ++ list) := rfl
  rw [hlate, orElse, readInsertion_list h, Option.some_or]

-- Texts without insertions are translated on their own, whatever stands between them.
theorem rewrites_between_iff {insert : List Text → CompileM Text} {a b z : List Segment}
    (ha : ∀ body, .group body ∈ a → readInsertion body = none)
    (hz : ∀ body, .group body ∈ z → readInsertion body = none) {v v' : Vault} {t : Text} :
    Rewrites insert read (a ++ (b ++ z)) v t v' ↔
      ∃ x m y, translate a = .ok x ∧ translate z = .ok y ∧ Rewrites insert read b v m v' ∧
        t = x ++ (m ++ y) := by
  simp only [rewrites_append_iff, rewrites_iff_translate ha, rewrites_iff_translate hz]
  constructor
  · rintro ⟨x, _, _, rfl, ⟨hx, rfl⟩, m, _, y, rfl, hm, hy, rfl⟩
    exact ⟨x, m, y, hx, hy, hm, rfl⟩
  · rintro ⟨x, m, y, hx, hy, hm, rfl⟩
    exact ⟨x, v, _, rfl, ⟨hx, rfl⟩, m, v', y, rfl, hm, hy, rfl⟩

theorem rewrites_insertion_iff {insert : List Text → CompileM Text} {body list : Text}
    (hr : read body = some (.insertion list)) {v v' : Vault} {t : Text} :
    Rewrites insert read [.group body] v t v' ↔
      Yields (insert (Reference.ofList list)) v t v' := by
  rw [rewrites_hit_iff hr]
  simp only [rewrites_nil_iff]
  constructor
  · rintro ⟨out, w, _, rfl, hout, rfl, rfl⟩
    simpa [Compiler.rewriteTag] using hout
  · intro h
    exact ⟨t, v', [], by simp, h, rfl, rfl⟩

theorem Rewrites.mono {stop : CompileError → Prop} {less more : List Text → CompileM Text}
    (h : ∀ references, Agrees stop (less references) (more references))
    {segments : List Segment} {v v' : Vault} {t : Text} (ht : Rewrites less read segments v t v') :
    Rewrites more read segments v t v' :=
  yields_assemble_piecesOf_iff.mp
    ((Agrees.assemble (Compiler.agrees_rewriteTag h) _).yields
      (yields_assemble_piecesOf_iff.mpr ht))

end Tag

namespace Compiler

variable {c : Compiler} {fs : FileSystem} {depth : Nat}

-- What is inserted is settled, at any depth.
theorem settled_insertAt (hc : c.extensions = []) {s list t : Text} {v v' : Vault}
    (hfiles : ∀ file, c.Reads fs s file → file.Insertable) (hlist : s.Inserts list)
    (h : Yields (c.insertAt fs depth (Reference.ofList list)) v t v') : Tag.Settled t := by
  induction depth generalizing s list t v v' with
  | zero => cases h
  | succ depth ih =>
      obtain ⟨d, b, hd, hb, h⟩ := (yields_insertAt_iff hc).mp h
      cases hd
      obtain ⟨hin, hinner⟩ := insertable_of_readAll hfiles hlist hb
      obtain ⟨segments, hs, hbare⟩ := hin.exists_segments
      have hinsert : ∀ body list, .group body ∈ segments →
          Tag.readInsertion body = some (.insertion list) → ∀ v s w,
            Yields (c.insertAt fs depth (Reference.ofList list)) v s w → Tag.Settled s :=
        fun body list hm hr _ _ _ => ih hinner ((inserts_iff hs hbare).mpr ⟨body, hm, hr⟩)
      have hfit : Tag.Fit (Tag.Calm (c.insertAt fs depth)) segments :=
        ⟨hs, fun body hm list hr v s w h => (hinsert body list hm hr v s w h).1⟩
      rw [Vault.protect_eq, show Vault.bareOf _ = spellAll segments from hbare.symm,
        Tag.yields_recognisers_iff hfit] at h
      obtain ⟨x, hx, rfl⟩ := h
      have hq := Vault.question_not_mem_bare hin.noQuestion
      rw [← hbare] at hq
      exact (hx.settled hs hq hinsert).mergeStatements

theorem mergeStatements_inserted {front s rest : Text} (hs : Tag.Settled s) :
    Tag.mergeStatements (front ++ (Tag.mergeStatements s ++ rest)) =
      Tag.mergeStatements (front ++ (s ++ rest)) := by
  have hstart : ¬ Host.statementClose <+: s := by
    rintro ⟨tail, rfl⟩
    exact hs.2 rfl
  have hown : Tag.mergeStatements s = Tag.mergeFrom front.getLast? s :=
    Tag.mergeFrom_eq_of_not_close hstart none _
  rw [hown, Tag.mergeStatements_context _ front s rest Iff.rfl]

end Compiler

section Between

variable {a z segments : List Segment} {s : Text}

theorem Vault.scan_between (ha : SoundAll a) (hz : SoundAll z) (hpa : (spellAll a).Plain)
    (hpz : (spellAll z).Plain) (hs : s.Insertable) :
    Piece.scan find (spellAll a ++ (s ++ spellAll z)) =
      (spellAll a).map .char ++ (Piece.scan find s ++ (spellAll z).map .char) := by
  obtain ⟨last, h⟩ := cut_spellAll ha ((Text.plain_spellAll_iff ha).mp hpa).1 none (s ++ spellAll z)
  rw [Piece.scan_eq_cut, h, cut_congr last none, ← Piece.scan_eq_cut, scan_append hs,
    scan_spellAll hz ((Text.plain_spellAll_iff hz).mp hpz).1]

theorem Vault.bare_between (ha : SoundAll a) (hz : SoundAll z) (hpa : (spellAll a).Plain)
    (hpz : (spellAll z).Plain) (hs : s.Insertable) (hbare : spellAll segments = bare s) :
    bare (spellAll a ++ (s ++ spellAll z)) = spellAll (a ++ (segments ++ z)) := by
  rw [bare, scan_between ha hz hpa hpz hs]
  simp only [bareOf_append, bareOf_chars, spellAll_append, hbare, bare]

-- What stands between two texts without literal blocks and insertions is compiled on its own, but
-- for the statements that are merged in the end.
theorem Compiler.compile_between_iff {c : Compiler} (hc : c.extensions = []) {fs : FileSystem}
    (ha : SoundAll a) (hz : SoundAll z) (hpa : (spellAll a).Plain) (hpz : (spellAll z).Plain)
    (hs : s.Insertable) (hbare : spellAll segments = Vault.bare s) {t : Text}
    (hfit : Tag.Fit (Tag.Calm (c.insertAt fs (min c.maxDepth.toNat c.room))) segments) :
    c.compile fs (spellAll a ++ (s ++ spellAll z)) = .ok t ↔
      ∃ x m y v, Tag.translate a = .ok x ∧ Tag.translate z = .ok y ∧
        Tag.Rewrites (c.insertAt fs (min c.maxDepth.toNat c.room)) Tag.read segments
          (Vault.empty.protect s).2 m v ∧
        t = v.restore (Tag.mergeStatements (x ++ (m ++ y))) := by
  have hna := ((Text.plain_spellAll_iff ha).mp hpa).2
  have hnz := ((Text.plain_spellAll_iff hz).mp hpz).2
  have hprotect : Vault.empty.protect (spellAll a ++ (s ++ spellAll z)) =
      (spellAll (a ++ (segments ++ z)), (Vault.empty.protect s).2) := by
    refine Prod.ext ?_ ?_
    · rw [Vault.protect_fst, Vault.bare_between ha hz hpa hpz hs hbare]
    · rw [Vault.protect_snd, Vault.protect_snd, Vault.scan_between ha hz hpa hpz hs,
        Vault.contentsOf_append, Vault.contentsOf_append, Vault.contentsOf_chars,
        Vault.contentsOf_chars, List.nil_append, List.append_nil]
  have hall : Tag.Fit (Tag.Calm (c.insertAt fs (min c.maxDepth.toNat c.room)))
      (a ++ (segments ++ z)) := by
    refine .append ⟨ha, fun body hm list hr => ?_⟩ (hfit.append ⟨hz, fun body hm list hr => ?_⟩)
    · simp [hna body hm] at hr
    · simp [hnz body hm] at hr
  simp only [compile_eq_ok_iff, rewriteAt_eq, yields_rewriteWith_iff hc, hprotect,
    Tag.yields_recognisers_iff hall, Tag.rewrites_between_iff hna hnz]
  constructor
  · rintro ⟨_, v, ⟨_, ⟨x, m, y, hx, hy, hm, rfl⟩, rfl⟩, rfl⟩
    exact ⟨x, m, y, v, hx, hy, hm, rfl⟩
  · rintro ⟨x, m, y, v, hx, hy, hm, rfl⟩
    exact ⟨_, v, ⟨_, ⟨x, m, y, hx, hy, hm, rfl⟩, rfl⟩, rfl⟩

end Between

namespace Tag

variable {list : Text}

theorem spellAll_insertionTag (list : Text) :
    spellAll [.group ("include ".toList ++ list)] = insertionTag list := by
  rw [spellAll_cons, spellAll_nil, List.append_nil]
  rfl

theorem soundAll_insertionTag (h : ∀ c ∈ list, isListChar c = true) :
    SoundAll [.group ("include ".toList ++ list)] := by
  have hfree : BraceFree ("include ".toList ++ list) := by
    rw [braceFree_append]
    exact ⟨by decide, braceFree_of_isListChar h⟩
  simpa [Sound] using hfree

theorem scan_insertionTag (h : ∀ c ∈ list, isListChar c = true) :
    Piece.scan Vault.find (insertionTag list) = (insertionTag list).map .char := by
  rw [← spellAll_insertionTag]
  refine Vault.scan_spellAll (soundAll_insertionTag h) fun body hm => ?_
  rw [List.mem_singleton] at hm
  cases hm
  rfl

theorem bare_insertionTag (h : ∀ c ∈ list, isListChar c = true) :
    Vault.bare (insertionTag list) = insertionTag list := by
  rw [Vault.bare, scan_insertionTag h, Vault.bareOf_chars]

theorem question_not_mem_insertionTag (h : ∀ c ∈ list, isListChar c = true) :
    '?' ∉ insertionTag list := by
  have hquestion : isListChar '?' = false := by decide
  have hlist : '?' ∉ list := by
    intro hm
    rw [h '?' hm] at hquestion
    cases hquestion
  simp only [insertionTag, List.mem_cons, List.mem_append, not_or]
  exact ⟨by decide, ⟨by decide, hlist⟩, by decide⟩

theorem insertable_insertionTag (h : ∀ c ∈ list, isListChar c = true) :
    (insertionTag list).Insertable := by
  have hs := soundAll_insertionTag h
  have hkept : Vault.withoutBlocks (insertionTag list) = insertionTag list := by
    rw [Vault.withoutBlocks, scan_insertionTag h, Vault.keptOf_chars]
  refine ⟨?_, ?_, ?_⟩
  · rw [hkept, ← spellAll_insertionTag]
    exact flat_spellAll hs
  · rw [bare_insertionTag h, ← spellAll_insertionTag,
      Vault.grouped_opening.occurs_eq_false_iff hs]
    intro body hm
    rw [List.mem_singleton] at hm
    cases hm
    rfl
  · rw [hkept]
    exact question_not_mem_insertionTag h

end Tag

namespace Compiler

theorem Reads.exists_read {c : Compiler} {fs : FileSystem} {s file : Text} (h : c.Reads fs s file) :
    ∃ reference, c.resolver.read fs reference = .ok file := by
  induction h with
  | listed _ _ hread => exact ⟨_, hread⟩
  | nested _ _ _ ih => exact ih

theorem exists_of_probe {fs : FileSystem} {paths : List Path} {path : Path} {content : Bytes}
    (h : (Resolver.probe fs paths).2 = .ok (some (path, content))) :
    fs path = .ok (some content) := by
  induction paths with
  | nil => cases h
  | cons other paths ih =>
      rw [Resolver.probe] at h
      split at h
      · exact ih h
      · next found hfound =>
        cases h
        exact hfound
      · cases h

-- What is found among files held in memory is the content of one of them.
theorem exists_entry_of_find {r : Resolver} {files : Files} {reference : Text} {path : Path}
    {content : Bytes} (h : r.find (.ofFiles files.read?) reference = .ok (some (path, content))) :
    ∃ entry ∈ files.entries, entry.2 = content := by
  have hfile : files.read? path = some content := Except.ok.inj (exists_of_probe h)
  rw [Files.read?, Option.map_eq_some_iff] at hfile
  obtain ⟨entry, hentry, hcontent⟩ := hfile
  exact ⟨entry, List.mem_of_find?_eq_some hentry, hcontent⟩

theorem exists_entry_of_read {r : Resolver} {files : Files} {reference file : Text}
    (h : r.read (.ofFiles files.read?) reference = .ok file) :
    ∃ entry ∈ files.entries, Utf8.decode? entry.2 = some file := by
  rw [Resolver.read] at h
  split at h
  · cases h
  · cases h
  · next path content hfind =>
    obtain ⟨entry, hentry, rfl⟩ := exists_entry_of_find hfind
    split at h
    · next text hdecode =>
      cases h
      exact ⟨entry, hentry, hdecode⟩
    · cases h

-- Of files held in memory all may be inserted, if each may.
theorem Reads.insertable_of_files {c : Compiler} {files : Files} {s file : Text}
    (hall : ∀ entry ∈ files.entries, (Utf8.decode? entry.2).all fun t => t.Insertable)
    (h : c.Reads (.ofFiles files.read?) s file) : file.Insertable := by
  obtain ⟨reference, hread⟩ := h.exists_read
  obtain ⟨entry, hentry, hdecode⟩ := exists_entry_of_read hread
  simpa [hdecode] using hall entry hentry

-- To insert files is to write their texts in the place of the tag, however deep they insert others
-- and whatever literal blocks they hold.
theorem compile_insertion {c : Compiler} (hc : c.extensions = []) (fs : FileSystem)
    {p q list b t : Text} (hp : p.Plain) (hq : q.Plain)
    (hlist : ∀ l ∈ list, Tag.isListChar l = true)
    (hb : c.readAll fs (Reference.ofList list) = .ok b)
    (hfiles : ∀ file, c.Reads fs (p ++ Tag.insertionTag list ++ q) file → file.Insertable)
    (h : c.compile fs (p ++ Tag.insertionTag list ++ q) = .ok t) :
    c.compile fs (p ++ b ++ q) = .ok t := by
  obtain ⟨a, ha, rfl⟩ := hp.exists_segments
  obtain ⟨z, hz, rfl⟩ := hq.exists_segments
  simp only [List.append_assoc] at h hfiles ⊢
  have htag := Tag.insertable_insertionTag hlist
  have hsound := Tag.soundAll_insertionTag hlist
  have hbare := (Tag.spellAll_insertionTag list).trans (Tag.bare_insertionTag hlist).symm
  have hinserts : Inserts (spellAll a ++ (Tag.insertionTag list ++ spellAll z)) list := by
    have hwhole := Vault.bare_between ha hz hp hq htag hbare
    have hs := (soundAll_append _ _).mpr ⟨ha, (soundAll_append _ _).mpr ⟨hsound, hz⟩⟩
    exact (inserts_iff hs hwhole.symm).mpr ⟨_, by simp, Tag.readInsertion_list hlist⟩
  have hsettled : ∀ {depth v s w}, Yields (c.insertAt fs depth (Reference.ofList list)) v s w →
      Tag.Settled s := settled_insertAt hc hfiles hinserts
  have hfit : Tag.Fit (Tag.Calm (c.insertAt fs (min c.maxDepth.toNat c.room)))
      [.group ("include ".toList ++ list)] := by
    refine ⟨hsound, fun body hm other hr v s w h => ?_⟩
    rw [List.mem_singleton, Segment.group.injEq] at hm
    rw [hm, Tag.readInsertion_list hlist] at hr
    cases hr
    exact (hsettled h).1
  obtain ⟨x, m, y, v, hx, hy, hm, rfl⟩ :=
    (compile_between_iff hc ha hz hp hq htag hbare hfit).mp h
  obtain ⟨hin, hinner⟩ := insertable_of_readAll hfiles hinserts hb
  obtain ⟨segments, hs, hbare⟩ := hin.exists_segments
  -- The files were read one level further down than the text that lists them.
  rw [Tag.rewrites_insertion_iff (Tag.read_list hlist), yields_insertAt_iff hc] at hm
  obtain ⟨d, other, hd, hother, hm⟩ := hm
  rw [hb] at hother
  cases hother
  have hinsert : ∀ {depth} body other, .group body ∈ segments →
      Tag.readInsertion body = some (.insertion other) → ∀ v s w,
        Yields (c.insertAt fs depth (Reference.ofList other)) v s w → Tag.Settled s :=
    fun body other hmem hr _ _ _ =>
      settled_insertAt hc hinner ((inserts_iff hs hbare).mpr ⟨body, hmem, hr⟩)
  have hcalm : ∀ depth, Tag.Fit (Tag.Calm (c.insertAt fs depth)) segments :=
    fun _ => ⟨hs, fun body hmem other hr v s w h => (hinsert body other hmem hr v s w h).1⟩
  have hvault : (Vault.empty.protect (Tag.insertionTag list)).2 = Vault.empty := by
    rw [Vault.protect_snd, Tag.scan_insertionTag hlist, Vault.contentsOf_chars, List.foldl_nil]
  rw [hvault, Vault.protect_fst, ← hbare, Tag.yields_recognisers_iff (hcalm d)] at hm
  obtain ⟨inner, hrewrites, rfl⟩ := hm
  have hquestion : '?' ∉ spellAll segments := hbare ▸ Vault.question_not_mem_bare hin.noQuestion
  rw [compile_between_iff hc ha hz hp hq hin hbare (hcalm _), hd]
  refine ⟨x, inner, y, v, hx, hy, hrewrites.mono (agrees_insertAt c fs c.maxDepth (Nat.le_succ d)), ?_⟩
  rw [mergeStatements_inserted (hrewrites.settled hs hquestion hinsert)]

-- A file that inserts another one.
def nestedFiles : Files :=
  (Files.empty.write (.ofText "t/default/a.html".toList)
    (Utf8.encode "a\x7binclude b@t\x7d".toList)).write
    (.ofText "t/default/b.html".toList) (Utf8.encode "\x7b$y\x7d".toList)

def nestedCompiler : Compiler where
  resolver := .make (Registry.empty.add "t".toList (.ofText "t".toList) 0) ".html".toList []
  maxDepth := defaultMaxDepth
  extensions := []
  room := defaultRoom

theorem compile_insertion_nested :
    nestedCompiler.compile (.ofFiles nestedFiles.read?)
      ("\x7b$x\x7d".toList ++ "a\x7binclude b@t\x7d".toList ++ "?".toList) =
      .ok "<?= (x) | e =?>a<?= (y) | e =?>?".toList := by
  have hp : Plain "\x7b$x\x7d".toList := by decide
  have hq : Plain "?".toList := by decide
  have hlist : ∀ l ∈ "a@t".toList, Tag.isListChar l = true := by decide
  have hb : nestedCompiler.readAll (.ofFiles nestedFiles.read?) (Reference.ofList "a@t".toList) =
      .ok "a\x7binclude b@t\x7d".toList := by decide +kernel
  have hall : ∀ entry ∈ nestedFiles.entries,
      (Utf8.decode? entry.2).all fun t => t.Insertable := by decide +kernel
  have h : nestedCompiler.compile (.ofFiles nestedFiles.read?)
      ("\x7b$x\x7d".toList ++ Tag.insertionTag "a@t".toList ++ "?".toList) =
      .ok "<?= (x) | e =?>a<?= (y) | e =?>?".toList := by decide +kernel
  exact compile_insertion rfl _ hp hq hlist hb (fun _ => Reads.insertable_of_files hall) h

end Compiler

end BraceTemplate
