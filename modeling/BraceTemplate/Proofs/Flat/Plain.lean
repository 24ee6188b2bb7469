import BraceTemplate.Proofs.Flat.Translate

namespace BraceTemplate

open Text Segment

-- An opening tag of a literal block, whether or not the block is closed.
def Vault.opening? : Recogniser Text := fun _ s => Tag.bareWord ["literal".toList] s

-- Whether something is found in a text.
def occurs {α : Type} (find : Recogniser α) (s : Text) : Bool :=
  (Piece.scan find s).any fun
    | .char _ => false
    | .hit _ => true

-- Where nothing is found in a text, nothing is found at any place of it, each with the character
-- before it.
theorem cut_any_eq_false_iff {α : Type} {find : Recogniser α} (s : Text) (before : Option Char) :
    (Piece.cut find before s).any (fun
      | .char _ => false
      | .hit _ => true) = false ↔
      ∀ a c b, s = a ++ c :: b → find (a.getLast?.or before) (c :: b) = none := by
  induction s generalizing before with
  | nil => simp
  | cons c s ih =>
      cases hf : find before (c :: s) with
      | some found =>
          obtain ⟨value, after⟩ := found
          simp only [Piece.cut, List.length_cons, Piece.scanFrom, hf, List.any_cons, Bool.true_or,
            Bool.true_eq_false, false_iff]
          intro h
          exact absurd ((h [] c s rfl).symm.trans hf) (by simp)
      | none =>
          rw [Piece.cut_of_none hf, List.any_cons, Bool.false_or, ih]
          constructor
          · intro h a d b he
            cases a with
            | nil =>
                simp only [List.nil_append, List.cons.injEq] at he
                rw [← he.1, ← he.2]
                exact hf
            | cons e a =>
                simp only [List.cons_append, List.cons.injEq] at he
                obtain ⟨rfl, he⟩ := he
                rw [Piece.getLast?_cons_or]
                exact h a d b he
          · intro h a d b he
            rw [← Piece.getLast?_cons_or]
            exact h (c :: a) d b (by simp [he])

theorem occurs_eq_false_iff {α : Type} {find : Recogniser α} {s : Text} :
    occurs find s = false ↔ ∀ a c b, s = a ++ c :: b → find a.getLast? (c :: b) = none := by
  rw [occurs, Piece.scan_eq_cut, cut_any_eq_false_iff]
  simp only [Option.or_none]

-- A text in which nothing is found is cut into its characters.
theorem scan_eq_chars {α : Type} {find : Recogniser α} {s : Text} (h : occurs find s = false) :
    Piece.scan find s = s.map .char := by
  have hcut : ∀ before, (∀ a c b, s = a ++ c :: b → find (a.getLast?.or before) (c :: b) = none) →
      Piece.cut find before s = s.map .char := by
    clear h
    induction s with
    | nil => exact fun _ _ => rfl
    | cons c s ih =>
        intro before h
        have hfirst : find before (c :: s) = none := h [] c s rfl
        rw [Piece.cut_of_none hfirst, ih (some c) fun a d b he => ?_, List.map_cons]
        rw [← Piece.getLast?_cons_or]
        exact h (c :: a) d b (by rw [he, List.cons_append])
  exact hcut none fun a c b he => by
    rw [Option.or_none]
    exact occurs_eq_false_iff.mp h a c b he

-- A flat text without literal blocks and insertions.
structure Text.Plain (s : Text) : Prop where
  flat : s.Flat
  noLiteral : occurs Vault.opening? s = false
  noInsertion : occurs Tag.insertion? s = false

instance (s : Text) : Decidable s.Plain :=
  decidable_of_iff (s.Flat ∧ occurs Vault.opening? s = false ∧ occurs Tag.insertion? s = false)
    ⟨fun h => ⟨h.1, h.2.1, h.2.2⟩, fun h => ⟨h.flat, h.noLiteral, h.noInsertion⟩⟩

theorem Tag.Grouped.occurs_eq_false_iff {α : Type} {find : Recogniser α} {read : Text → Option α}
    (h : Grouped find read) {segments : List Segment} (hs : SoundAll segments) :
    occurs find (spellAll segments) = false ↔
      ∀ body, .group body ∈ segments → read body = none := by
  rw [occurs, h.scan_spellAll hs]
  clear hs
  induction segments with
  | nil => simp [piecesOf]
  | cons segment segments ih =>
      cases segment with
      | char c => simpa [piecesOf] using ih
      | group body =>
          cases hr : read body with
          | none => simpa [piecesOf, hr] using ih
          | some value => simp [piecesOf, hr]

-- A recogniser that starts at an opening brace finds nothing where there is none.
theorem occurs_of_not_mem {α : Type} {find : Recogniser α}
    (houtside : ∀ before c s, c ≠ '\x7b' → find before (c :: s) = none) {s : Text}
    (hs : '\x7b' ∉ s) : occurs find s = false :=
  occurs_eq_false_iff.mpr fun a c b he => houtside _ c b fun hc => hs (by simp [he, hc])

theorem Vault.grouped_opening : Tag.Grouped Vault.opening? (Tag.wholeWord ["literal".toList]) where
  outside before c s hc := Tag.bareWord_outside _ hc s
  closed before s found h := Tag.mem_of_bareWord h
  upTo before body rest hb := .inl (Tag.bareWord_group _ (by decide) hb rest)

namespace Vault

theorem takeWord_append_word (first second s : Text) :
    takeWord (first ++ second) s = (takeWord first s).bind fun (spelling, left) =>
      (takeWord second left).map fun (more, rest) => (spelling ++ more, rest) := by
  induction first generalizing s with
  | nil =>
      simp only [List.nil_append, takeWord, Option.bind_some]
      cases takeWord second s <;> rfl
  | cons l first ih =>
      cases s with
      | nil => rfl
      | cons c s =>
          by_cases hc : sameLetter l c
          · simp only [List.cons_append, takeWord, hc, if_true, ih, Option.map_bind,
              Option.bind_map]
            congr 1
            funext found
            simp [Function.comp_def]
          · simp [takeWord, hc]

theorem find_of_ne {c : Char} (hc : c ≠ '\x7b') (before : Option Char) (s : Text) :
    find before (c :: s) = none := by
  unfold find
  split <;> simp_all

-- A group that opens no literal block starts none.
theorem find_group {body : Text} (hb : BraceFree body)
    (hn : Tag.wholeWord ["literal".toList] body = none) (before : Option Char) (rest : Text) :
    find before ('\x7b' :: (body ++ '\x7d' :: rest)) = none := by
  have hword : takeWord "literal\x7d".toList (body ++ '\x7d' :: rest) = none := by
    rw [show "literal\x7d".toList = "literal".toList ++ ['\x7d'] from rfl, takeWord_append_word,
      takeWord_append_closing _ _ _ (by decide)]
    cases hw : takeWord "literal".toList body with
    | none => rfl
    | some found =>
        obtain ⟨spelling, left⟩ := found
        simp only [Tag.wholeWord, takeFirstWord, List.findSome?_cons, hw, Option.bind_some] at hn
        cases left with
        | nil => simp at hn
        | cons c left =>
            have hc : isBrace c = false := hb c (by simp [(takeWord_eq_some hw).1])
            have hne := ((isBrace_eq_false_iff c).mp hc).2
            have hs : sameLetter '\x7d' c = false := by
              by_contra h
              exact hne (eq_of_sameLetter (by decide) (by simpa using h))
            simp [takeWord, hs]
  simp only [find, hword, Option.bind_eq_bind, Option.bind_none]

-- Where no literal block is opened, nothing is taken out.
theorem cut_spellAll {segments : List Segment} (hs : SoundAll segments)
    (hn : ∀ body, .group body ∈ segments → Tag.wholeWord ["literal".toList] body = none)
    (before : Option Char) (rest : Text) :
    ∃ last, Piece.cut find before (spellAll segments ++ rest) =
      (spellAll segments).map .char ++ Piece.cut find last rest := by
  induction segments generalizing before with
  | nil => exact ⟨before, rfl⟩
  | cons segment segments ih =>
      obtain ⟨hsegment, hs⟩ := (soundAll_cons _ _).mp hs
      have ih := ih hs fun body hm => hn body (List.mem_cons_of_mem _ hm)
      cases segment with
      | char c =>
          have hc := ((isBrace_eq_false_iff c).mp hsegment).1
          obtain ⟨last, ih⟩ := ih (some c)
          exact ⟨last, by simp [spell, Piece.cut_of_none (find_of_ne hc before _), ih]⟩
      | group body =>
          have hb : BraceFree body := hsegment
          have hopen := find_group hb (hn body (by simp)) before (spellAll segments ++ rest)
          have hclosed : ∀ d ∈ body ++ ['\x7d'], d ≠ '\x7b' := by
            intro d hd
            rcases List.mem_append.mp hd with hd | hd
            · exact ((isBrace_eq_false_iff d).mp (hb d hd)).1
            · rw [List.mem_singleton.mp hd]; decide
          have hinner := Piece.cut_append_of_none (body ++ ['\x7d'])
            (spellAll segments ++ rest) (some '\x7b') fun a c b he before =>
              find_of_ne (hclosed c (by simp [he])) before _
          obtain ⟨last, ih⟩ := ih ((body ++ ['\x7d']).getLast?.or (some '\x7b'))
          refine ⟨last, ?_⟩
          rw [ih] at hinner
          simp only [List.append_assoc, List.singleton_append] at hinner
          simp only [spellAll_cons, spell, List.cons_append, List.append_assoc, List.nil_append,
            Piece.cut_of_none hopen, hinner]
          simp

-- What is left of a text when its literal blocks are taken out, and what was in them.
def bareOf (pieces : List (Piece Text)) : Text :=
  pieces.flatMap fun
    | .char c => [c]
    | .hit content => placeholder content

def contentsOf (pieces : List (Piece Text)) : List Text :=
  pieces.filterMap fun
    | .char _ => none
    | .hit content => some content

theorem protect_eq (v : Vault) (s : Text) :
    v.protect s = (bareOf (Piece.scan find s), (contentsOf (Piece.scan find s)).foldl put v) := by
  have hall : ∀ pieces : List (Piece Text), pieces.foldr
      (fun piece (found : Text × List Text) =>
        match piece with
        | .char c => (c :: found.1, found.2)
        | .hit content => (placeholder content ++ found.1, content :: found.2))
      ([], []) = (bareOf pieces, contentsOf pieces) := by
    intro pieces
    induction pieces with
    | nil => rfl
    | cons piece pieces ih =>
        rw [List.foldr_cons, ih]
        cases piece <;> rfl
  exact congrArg (fun found => (found.1, found.2.foldl put v)) (hall (Piece.scan find s))

@[simp] theorem bareOf_append (a b : List (Piece Text)) : bareOf (a ++ b) = bareOf a ++ bareOf b :=
  List.flatMap_append

@[simp] theorem contentsOf_append (a b : List (Piece Text)) :
    contentsOf (a ++ b) = contentsOf a ++ contentsOf b :=
  List.filterMap_append

@[simp] theorem bareOf_chars (s : Text) : bareOf (s.map .char) = s := by
  induction s with
  | nil => rfl
  | cons c s ih => simpa [bareOf] using ih

@[simp] theorem contentsOf_chars (s : Text) : contentsOf (s.map .char) = [] := by
  simp [contentsOf]

theorem bareOf_hit (content : Text) (pieces : List (Piece Text)) :
    bareOf (.hit content :: pieces) = placeholder content ++ bareOf pieces := rfl

theorem contentsOf_hit (content : Text) (pieces : List (Piece Text)) :
    contentsOf (.hit content :: pieces) = content :: contentsOf pieces := rfl

@[simp] theorem restore_empty (s : Text) : empty.restore s = s := rfl

end Vault

section Plain

variable {segments : List Segment}

theorem Vault.scan_spellAll (hs : SoundAll segments)
    (hn : ∀ body, .group body ∈ segments → Tag.wholeWord ["literal".toList] body = none) :
    Piece.scan find (spellAll segments) = (spellAll segments).map .char := by
  obtain ⟨last, h⟩ := cut_spellAll hs hn none []
  rwa [List.append_nil, Piece.cut_nil, List.append_nil] at h

theorem Vault.protect_spellAll (v : Vault) (hs : SoundAll segments)
    (hn : ∀ body, .group body ∈ segments → Tag.wholeWord ["literal".toList] body = none) :
    v.protect (spellAll segments) = (spellAll segments, v) := by
  rw [protect_eq, scan_spellAll hs hn, bareOf_chars, contentsOf_chars]
  rfl

theorem Text.plain_spellAll_iff (hs : SoundAll segments) :
    (spellAll segments).Plain ↔
      (∀ body, .group body ∈ segments → Tag.wholeWord ["literal".toList] body = none) ∧
        ∀ body, .group body ∈ segments → Tag.readInsertion body = none := by
  rw [← Vault.grouped_opening.occurs_eq_false_iff hs,
    ← Tag.grouped_insertion.occurs_eq_false_iff hs]
  exact ⟨fun h => ⟨h.noLiteral, h.noInsertion⟩, fun h => ⟨flat_spellAll hs, h.1, h.2⟩⟩

theorem Text.Plain.exists_segments {s : Text} (h : s.Plain) :
    ∃ segments, SoundAll segments ∧ spellAll segments = s := flat_iff_exists_segments.mp h.flat

theorem Text.Plain.append {s t : Text} (hs : s.Plain) (ht : t.Plain) : Plain (s ++ t) := by
  obtain ⟨a, ha, rfl⟩ := hs.exists_segments
  obtain ⟨b, hb, rfl⟩ := ht.exists_segments
  rw [Text.plain_spellAll_iff ha] at hs
  rw [Text.plain_spellAll_iff hb] at ht
  rw [← spellAll_append, Text.plain_spellAll_iff ((soundAll_append a b).mpr ⟨ha, hb⟩)]
  constructor
  · intro body hm
    exact (List.mem_append.mp hm).elim (hs.1 body) (ht.1 body)
  · intro body hm
    exact (List.mem_append.mp hm).elim (hs.2 body) (ht.2 body)

end Plain

namespace Compiler

theorem assemble_chars {m : Type → Type} [Monad m] [LawfulMonad m] (emit : Tag → m Text) (s : Text) :
    Piece.assemble emit (s.map .char) = pure s := by
  induction s with
  | nil => rfl
  | cons c s ih => rw [List.map_cons, Piece.assemble, ih, pure_bind]

-- Steps that leave a text alone leave it alone one after the other.
theorem foldlM_eq_pure {m : Type → Type} [Monad m] [LawfulMonad m] {α : Type}
    {step : Text → α → m Text} {items : List α} {s : Text}
    (h : ∀ a ∈ items, step s a = pure s) : items.foldlM step s = pure s := by
  induction items with
  | nil => rfl
  | cons a items ih =>
      rw [List.foldlM_cons, h a (by simp), pure_bind]
      exact ih fun b hm => h b (List.mem_cons_of_mem _ hm)

theorem rewriteKind_eq_pure {insert : List Text → CompileM Text} {find : Recogniser Tag} {s : Text}
    (h : occurs find s = false) : rewriteKind insert s find = pure s := by
  rw [rewriteKind, scan_eq_chars h, assemble_chars]

-- What a text at some depth does with the references of an insertion.
def insertAt (c : Compiler) (fs : FileSystem) : (depth : Nat) → List Text → CompileM Text
  | 0 => fun references => throw (c.depthError references)
  | depth + 1 => fun references => do
    let source ← liftM ((c.readAll fs references).mapError CompileError.unreadable)
    rewriteAt c fs depth source

theorem rewriteAt_eq (c : Compiler) (fs : FileSystem) (depth : Nat) (s : Text) :
    c.rewriteAt fs depth s = c.rewriteWith (c.insertAt fs depth) s := by
  cases depth <;> rfl

-- Without extensions the tags are rewritten in what is left when literal blocks are taken out.
theorem run_rewriteWith {c : Compiler} (hc : c.extensions = []) (insert : List Text → CompileM Text)
    (s : Text) (v : Vault) :
    (c.rewriteWith insert s).run v =
      (Tag.recognisers.foldlM (rewriteKind insert) (v.protect s).1).run (v.protect s).2 := by
  simp only [rewriteWith, hc, List.foldlM_nil, bind_pure, StateT.run_bind, StateT.run_get,
    StateT.run_set, pure_bind]

theorem yields_rewriteWith_iff {c : Compiler} (hc : c.extensions = [])
    {insert : List Text → CompileM Text} {s t : Text} {v v' : Vault} :
    Yields (c.rewriteWith insert s) v t v' ↔
      Yields (Tag.recognisers.foldlM (rewriteKind insert) (v.protect s).1) (v.protect s).2 t v' := by
  rw [Yields, run_rewriteWith hc, Yields]

theorem compile_eq_ok_iff {c : Compiler} {fs : FileSystem} {s t : Text} :
    c.compile fs s = .ok t ↔
      ∃ x v, Yields (c.rewriteAt fs (min c.maxDepth.toNat c.room) s) .empty x v ∧
        t = v.restore x := by
  simp only [compile, Except.bind_eq_ok, Prod.exists, Yields, Except.ok.injEq]
  exact ⟨fun ⟨x, v, h, ht⟩ => ⟨x, v, h, ht.symm⟩, fun ⟨x, v, h, ht⟩ => ⟨x, v, h, ht.symm⟩⟩

-- A text that is flat without its literal blocks, and has no insertions, is compiled group by group;
-- then the blocks come back.
theorem compile_eq_ok_iff_of_protect {c : Compiler} (hc : c.extensions = []) {fs : FileSystem}
    {s : Text} {segments : List Segment} {v : Vault} (hs : SoundAll segments)
    (hn : ∀ body, .group body ∈ segments → Tag.readInsertion body = none)
    (hprotect : Vault.empty.protect s = (spellAll segments, v)) {t : Text} :
    c.compile fs s = .ok t ↔
      ∃ x, Tag.translate segments = .ok x ∧ t = v.restore (Tag.mergeStatements x) := by
  have hfit : Tag.Fit (Tag.Calm (c.insertAt fs (min c.maxDepth.toNat c.room))) segments := by
    refine ⟨hs, fun body hm list hread => ?_⟩
    simp [hn body hm] at hread
  simp only [compile_eq_ok_iff, rewriteAt_eq, yields_rewriteWith_iff hc, hprotect,
    Tag.yields_recognisers_iff hfit, Tag.rewrites_iff_translate hn]
  constructor
  · rintro ⟨_, v, ⟨x, ⟨hx, rfl⟩, rfl⟩, rfl⟩
    exact ⟨x, hx, rfl⟩
  · rintro ⟨x, hx, rfl⟩
    exact ⟨_, _, ⟨x, ⟨hx, rfl⟩, rfl⟩, rfl⟩

theorem compile_spellAll_eq_ok_iff {c : Compiler} (hc : c.extensions = []) {fs : FileSystem}
    {segments : List Segment} (hs : SoundAll segments) (hp : (spellAll segments).Plain) {t : Text} :
    c.compile fs (spellAll segments) = .ok t ↔
      ∃ x, Tag.translate segments = .ok x ∧ t = Tag.mergeStatements x := by
  obtain ⟨hliteral, hinsertion⟩ := (Text.plain_spellAll_iff hs).mp hp
  rw [compile_eq_ok_iff_of_protect hc hs hinsertion (Vault.protect_spellAll _ hs hliteral)]
  simp only [Vault.restore_empty]

end Compiler

end BraceTemplate
