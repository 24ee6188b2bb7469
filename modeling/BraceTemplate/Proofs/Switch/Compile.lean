import BraceTemplate.Proofs.Switch.Basic
import BraceTemplate.Proofs.Tree.Compile

namespace BraceTemplate

open Host Lexeme

namespace Host

theorem statement_entering (x : Text) :
    statement ("with _switch = namespace(subject=(".toList ++ x ++ "), done=false)".toList) =
      statementOf (entering x) := by
  have hspell : Lexeme.spellAll (entering x) =
      "with _switch = namespace(subject=(".toList ++ (x ++ "), done=false)".toList) := rfl
  rw [statementOf, hspell, List.append_assoc]

theorem statement_asked {label : Label} {operand : Lexeme} (h : label.operand? = some operand) :
    statement ("if not _switch.done and _switch.subject == (".toList ++ operand.spell ++ [')']) =
      statementOf (asked label) := by
  have hspell : Lexeme.spellAll (word "if" :: .blank :: word "not" :: .blank :: .name switchName ::
      .mark .dot :: word "done" :: compared operand) =
      "if not _switch.done and _switch.subject == (".toList ++ (operand.spell ++ [')']) := rfl
  rw [statementOf, asked, h, Option.map_some, Option.getD_some, hspell, List.append_assoc]

theorem statement_taken : Tag.markDone = statementOf taken := by decide

theorem statement_asked_default :
    statement "if not _switch.done".toList = statementOf (asked .default) := by decide

namespace Lexeme

theorem sound_entering {x : Text} (hx : isVariable x = true) : (entering x).all isSound = true := by
  simp only [entering, enclosed, List.cons_append, List.nil_append, List.all_cons, isSound_name,
    isName_of_variable hx]
  decide

theorem sound_compared {operand : Lexeme} (h : operand.isSound = true) :
    (compared operand).all isSound = true := by
  simp only [compared, List.all_cons, h]
  decide

theorem sound_asked {label : Label} (hl : label.isValid = true) : (asked label).all isSound = true := by
  have hoperand : ∀ operand, label.operand? = some operand → operand.isSound = true := by
    intro operand h
    cases label with
    | default => simp [Label.operand?] at h
    | number n =>
        obtain rfl := Option.some.inj h
        rfl
    | named y =>
        obtain rfl := Option.some.inj h
        exact isName_of_variable hl
  have hcompared : ((label.operand?.map compared).getD []).all isSound = true := by
    cases h : label.operand? with
    | none => rfl
    | some operand => exact sound_compared (hoperand operand h)
  simp only [asked, List.all_cons, hcompared]
  decide

theorem sound_taken : taken.all isSound = true := by decide

theorem sound_endif : [word "endif"].all isSound = true := by decide

theorem sound_endwith : [word "endwith"].all isSound = true := by decide

end Lexeme

end Host

namespace Tag

theorem translateSegment_switch {x : Text} (hx : isVariable x = true) :
    translateSegment (.ofSwitch x) = .ok (statementOf (entering x)) := by
  have hread : read ('s' :: 'w' :: 'i' :: 't' :: 'c' :: 'h' :: ' ' :: '$' :: x) =
      some (.opening "switch".toList (Text.trim ('$' :: x))) := rfl
  have hlower : lowerText "switch".toList = "switch".toList := rfl
  rw [Segment.ofSwitch, translateSegment_of_read hread, trim_variable hx, rewrite, hlower,
    ← statement_entering]
  simp [openBlock, Sigil.strip_variable hx]

theorem strip_natText (n : Nat) : Sigil.strip (natText n) = natText n := by
  have hplain : ∀ c ∈ natText n, c ≠ '$' ∧ c ≠ '\'' ∧ c ≠ '"' := by
    intro c hc
    have hdigit := isDigit_of_mem_natText hc
    refine ⟨?_, ?_, ?_⟩ <;> (rintro rfl; exact absurd hdigit (by decide))
  have hnil : Sigil.strip [] = [] := rfl
  simpa [hnil] using Sigil.strip_append hplain []

theorem read_case {body : Text} (hblank : ∀ c ∈ body, isBlank c = false) :
    read ('c' :: 'a' :: 's' :: 'e' :: ' ' :: body) = some (.case body) := by
  have hread : read ('c' :: 'a' :: 's' :: 'e' :: ' ' :: body) =
      some (.case (Text.trim (Text.trimLeft body))) := rfl
  have hleft : Text.trimLeft body = body := by
    cases body with
    | nil => rfl
    | cons c s => exact Text.trimLeft_cons_of_not_blank (hblank c List.mem_cons_self) s
  rw [hread, hleft, Text.trim_eq_self_of_forall hblank]

theorem translateSegment_case (label : Label) {operand : Lexeme} (h : label.operand? = some operand)
    {body : Text} (hblank : ∀ c ∈ body, isBlank c = false) (hstrip : Sigil.strip body = operand.spell) :
    translateSegment (.group ('c' :: 'a' :: 's' :: 'e' :: ' ' :: body)) =
      .ok (statementOf (asked label) ++ statementOf taken) := by
  rw [translateSegment_of_read (read_case hblank), rewrite, hstrip, statement_asked h, statement_taken]

theorem translateSegment_label {label : Label} (hl : label.isValid = true) :
    translateSegment (.ofLabel label) = .ok (statementOf (asked label) ++ statementOf taken) := by
  cases label with
  | default =>
      have hread : read "default".toList = some .fallback := rfl
      rw [Segment.ofLabel, translateSegment_of_read hread, rewrite, statement_asked_default,
        statement_taken]
  | number n =>
      have hblank : ∀ c ∈ natText n, isBlank c = false := fun c hc =>
        not_isBlank_of_namePart (by simp [isNamePart_eq, isDigit_of_mem_natText hc])
      exact translateSegment_case (.number n) rfl hblank (strip_natText n)
  | named y =>
      have hblank : ∀ c ∈ '$' :: y, isBlank c = false := by
        simpa using ⟨by decide, not_isBlank_of_variable hl⟩
      exact translateSegment_case (.named y) rfl hblank (Sigil.strip_variable hl)

theorem translateSegment_closing (label : Label) :
    translateSegment (.closing label) = .ok (statementOf [word "endif"]) := by
  cases label <;> rfl

theorem translateSegment_endwith :
    translateSegment (.group "/switch".toList) = .ok (statementOf [word "endwith"]) := rfl

-- A label and what it is closed by, with what stands between them.
theorem translate_around {label : Label} (hl : label.isValid = true) {inner : List Segment} {body : Text}
    (h : translate inner = .ok body) {rest : List Segment} {t : Text} (hrest : translate rest = .ok t) :
    translate (.ofLabel label :: (inner ++ .closing label :: rest)) = .ok (label.around body ++ t) := by
  have hwhole := translate_cons (translateSegment_label hl)
    (translate_append h (translate_cons (translateSegment_closing label) hrest))
  simpa [Label.around] using hwhole

theorem translate_aroundSwitch {x : Text} (hx : isVariable x = true) {inner : List Segment} {body : Text}
    (h : translate inner = .ok body) {rest : List Segment} {t : Text} (hrest : translate rest = .ok t) :
    translate (.ofSwitch x :: (inner ++ .group "/switch".toList :: rest)) =
      .ok (Switch.around x body ++ t) := by
  have hwhole := translate_cons (translateSegment_switch hx)
    (translate_append h (translate_cons translateSegment_endwith hrest))
  simpa [Switch.around] using hwhole

-- What stands behind the end of a statement, and what is left of it when statements are merged.
def Behind (s t : Text) : Prop :=
  mergeFrom (some ' ') ('?' :: '>' :: s) = '?' :: '>' :: t

-- The same for a text in front of which white space may stand.
def Gapped (s t : Text) : Prop :=
  ∀ gap, isGap gap = true → Behind (gap ++ s) t

section Behind

variable {s t : Text} {ls : List Lexeme}

theorem behind_nil : Behind [] [] := rfl

theorem mergeFrom_statement (hsound : ls.all Lexeme.isSound = true) (h : Behind s t)
    (before : Option Char) : mergeFrom before (statementOf ls ++ s) = statementOf ls ++ t := by
  rw [mergeFrom_statementOf hsound, h]
  simp [statementOf, Host.statement, statementClose]

theorem Behind.chunk {u : Text} (hu : isChunk u = true) (h : ∀ before, mergeFrom before s = t) :
    Behind (u ++ s) (u ++ t) := by
  have hend : merge? (some ' ') ('?' :: '>' :: (u ++ s)) = none := by
    rw [merge?_statementEnd, if_neg (by decide), Option.bind_eq_none_iff]
    intro rest hrest
    rw [takeWord_of_chunk hu hrest, Option.map_none]
  rw [Behind, mergeFrom_of_none hend, mergeFrom_of_none (merge?_of_ne (by decide) _ _),
    mergeFrom_append_of_not_mem (not_mem_of_chunk hu (by decide)), h]

-- White space between two statements goes.
theorem Behind.statement (hsound : ls.all Lexeme.isSound = true) (h : Behind s t) :
    Gapped (statementOf ls ++ s) (statementOf ls ++ t) := by
  intro gap hgap
  have hmerged := mergeFrom_statement hsound h
  cases gap with
  | nil =>
      have hblank : isBlank '<' = false := by decide
      have hend : merge? (some ' ') ('?' :: '>' :: (statementOf ls ++ s)) = none := by
        rw [merge?_statementEnd, if_neg (by decide)]
        simp [statementOf, Host.statement, statementOpen, skipBlanks?, hblank]
      rw [List.nil_append, Behind, mergeFrom_of_none hend,
        mergeFrom_of_none (merge?_of_ne (by decide) _ _), hmerged]
  | cons c gap =>
      simp only [isGap, List.all_cons, Bool.and_eq_true, List.all_eq_true] at hgap
      have hls : '?' ∉ ' ' :: (Lexeme.spellAll ls ++ [' ']) := by
        simpa using question_not_mem hsound
      have hlast : (' ' :: (Lexeme.spellAll ls ++ [' '])).getLast?.or none = some ' ' := by
        rw [← List.cons_append, List.getLast?_concat, Option.some_or]
      have hwhole : statementOf ls ++ s =
          statementOpen ++ (' ' :: (Lexeme.spellAll ls ++ [' ']) ++ '?' :: '>' :: s) := by
        simp [statementOf, Host.statement, statementClose]
      have hword : ∀ rest, takeWord "<?py".toList (statementOpen ++ rest) = some (statementOpen, rest) :=
        fun _ => rfl
      have hspace : some ' ' ≠ some '=' := by decide
      have hfound := merge?_eq_some hspace hgap.1 hgap.2
        (hword (' ' :: (Lexeme.spellAll ls ++ [' ']) ++ '?' :: '>' :: s))
      rw [hwhole, Behind, List.cons_append, mergeFrom_of_some hfound, mergeFrom_append_of_not_mem hls,
        hlast, h]
      simp [statementOf, Host.statement, statementClose]

theorem Gapped.behind (h : Gapped s t) : Behind s t :=
  h [] rfl

theorem Gapped.gap (h : Gapped s t) {gap : Text} (hgap : isGap gap = true) : Gapped (gap ++ s) t := by
  intro gap' hgap'
  rw [← List.append_assoc]
  exact h _ (by simpa [isGap] using ⟨by simpa [isGap] using hgap', by simpa [isGap] using hgap⟩)

theorem gapped_around {label : Label} (hl : label.isValid = true) {body body' : Text}
    (h : Behind (body ++ (statementOf [word "endif"] ++ s)) (body' ++ (statementOf [word "endif"] ++ t))) :
    Gapped (label.around body ++ s) (label.around body' ++ t) := by
  have htaken := (h.statement sound_taken).behind
  simpa only [Label.around, List.append_assoc] using htaken.statement (sound_asked hl)

theorem gapped_aroundSwitch {x : Text} (hx : isVariable x = true) {body body' : Text}
    (h : Behind (body ++ (statementOf [word "endwith"] ++ s))
      (body' ++ (statementOf [word "endwith"] ++ t))) :
    Gapped (Switch.around x body ++ s) (Switch.around x body' ++ t) := by
  simpa only [Switch.around, List.append_assoc] using h.statement (sound_entering hx)

end Behind

end Tag

namespace Cases

open Tag

theorem translate_segments (c : Cases) (hc : c.isValid = true) :
    Tag.translate c.segments = .ok c.draft := by
  induction c with
  | done => rfl
  | text label s gap rest ih =>
      simp only [isValid, Bool.and_eq_true] at hc
      obtain ⟨⟨⟨hl, -⟩, -⟩, hrest⟩ := hc
      exact translate_around hl (translate_chars s) (translate_append (translate_chars gap) (ih hrest))
  | switch label before x first inner after gap rest ihinner ih =>
      simp only [isValid, Bool.and_eq_true] at hc
      obtain ⟨⟨⟨⟨⟨hl, hx⟩, -⟩, hinner⟩, -⟩, hrest⟩ := hc
      have hswitch := translate_aroundSwitch hx
        (translate_append (translate_chars first) (ihinner hinner)) (translate_chars after)
      have hwhole := translate_around hl (translate_append (translate_chars before) hswitch)
        (translate_append (translate_chars gap) (ih hrest))
      simpa [segments, draft] using hwhole

-- The gaps between the tags of branches go.
theorem gapped_draft (c : Cases) (hc : c.isValid = true) {s t : Text} (h : Gapped s t) :
    Gapped (c.draft ++ s) (c.host ++ t) := by
  induction c generalizing s t with
  | done => exact h
  | text label u gap rest ih =>
      simp only [isValid, Bool.and_eq_true] at hc
      obtain ⟨⟨⟨hl, hu⟩, hgap⟩, hrest⟩ := hc
      have hend := mergeFrom_statement sound_endif ((ih hrest h) gap hgap)
      have hbranch := gapped_around hl (Behind.chunk hu hend)
      simpa only [draft, host, List.append_assoc] using hbranch
  | switch label before x first inner after gap rest ihinner ih =>
      simp only [isValid, Bool.and_eq_true] at hc
      obtain ⟨⟨⟨⟨⟨hl, hx⟩, hbefore, hfirst⟩, hinner⟩, hafter, hgap⟩, hrest⟩ := hc
      have hend : Gapped _ _ := Behind.statement sound_endif ((ih hrest h) gap hgap)
      have hclose : Gapped _ _ := Behind.statement sound_endwith (hend after hafter)
      have hinside : Behind (first ++ inner.draft ++ (statementOf [word "endwith"] ++ _))
          (inner.host ++ (statementOf [word "endwith"] ++ _)) :=
        List.append_assoc first _ _ ▸ (ihinner hinner hclose) first hfirst
      have hbody : Behind (before ++ (Switch.around x (first ++ inner.draft) ++ after) ++
          (statementOf [word "endif"] ++ (gap ++ (rest.draft ++ s))))
          (Switch.around x inner.host ++ (statementOf [word "endif"] ++ (rest.host ++ t))) := by
        simpa only [List.append_assoc] using (gapped_aroundSwitch hx hinside) before hbefore
      simpa only [draft, host, List.append_assoc] using gapped_around hl hbody

end Cases

namespace Segment

theorem ordinary_gap {gap : Text} (hgap : isGap gap = true) : ∀ segment ∈ chars gap, segment.Ordinary := by
  intro segment hm
  obtain ⟨c, hc, rfl⟩ := List.mem_map.mp hm
  have hblank : isBlank c = true := List.all_eq_true.mp hgap c hc
  have hbrace : Text.isBrace c = false := by
    rw [Text.isBrace_eq_false_iff]
    constructor <;> (rintro rfl; exact absurd hblank (by decide))
  exact ⟨hbrace, by simp, by simp⟩

theorem ordinary_switch {x : Text} (hx : isVariable x = true) : Ordinary (.ofSwitch x) := by
  refine ordinary_group ?_ rfl rfl
  simp only [Text.braceFree_cons, braceFree_variable hx]
  decide

theorem ordinary_label {label : Label} (hl : label.isValid = true) : Ordinary (.ofLabel label) := by
  cases label with
  | default => exact ordinary_group (by decide) rfl rfl
  | number n =>
      have hdigits : Text.BraceFree (natText n) := by
        intro c hc
        have hdigit := isDigit_of_mem_natText hc
        rw [Text.isBrace_eq_false_iff]
        constructor <;> (rintro rfl; exact absurd hdigit (by decide))
      refine ordinary_group ?_ rfl rfl
      simp only [Text.braceFree_cons, hdigits]
      decide
  | named y =>
      refine ordinary_group ?_ rfl rfl
      simp only [Text.braceFree_cons, braceFree_variable hl]
      decide

theorem ordinary_closing (label : Label) : Ordinary (.closing label) := by
  cases label <;> exact ordinary_group (by decide) rfl rfl

theorem ordinary_endwith : Ordinary (.group "/switch".toList) := ordinary_group (by decide) rfl rfl

end Segment

theorem Cases.ordinary_segments (c : Cases) (hc : c.isValid = true) :
    ∀ segment ∈ c.segments, segment.Ordinary := by
  induction c with
  | done => simp [Cases.segments]
  | text label s gap rest ih =>
      simp only [isValid, Bool.and_eq_true] at hc
      obtain ⟨⟨⟨hl, hs⟩, hgap⟩, hrest⟩ := hc
      simp only [segments, List.forall_mem_cons, List.forall_mem_append]
      exact ⟨Segment.ordinary_label hl, Segment.ordinary_chars hs, Segment.ordinary_closing label,
        Segment.ordinary_gap hgap, ih hrest⟩
  | switch label before x first inner after gap rest ihinner ih =>
      simp only [isValid, Bool.and_eq_true] at hc
      obtain ⟨⟨⟨⟨⟨hl, hx⟩, hbefore, hfirst⟩, hinner⟩, hafter, hgap⟩, hrest⟩ := hc
      simp only [segments, List.forall_mem_cons, List.forall_mem_append]
      exact ⟨Segment.ordinary_label hl, Segment.ordinary_gap hbefore, Segment.ordinary_switch hx,
        Segment.ordinary_gap hfirst, ihinner hinner, Segment.ordinary_endwith,
        Segment.ordinary_gap hafter, Segment.ordinary_closing label, Segment.ordinary_gap hgap, ih hrest⟩

-- A switch is compiled tag by tag, and the gaps in it go.
theorem Switch.compile_source {c : Compiler} (hc : c.extensions = []) (fs : FileSystem) {w : Switch}
    (hw : w.isValid = true) : c.compile fs w.source = .ok w.host := by
  simp only [isValid, Bool.and_eq_true] at hw
  obtain ⟨⟨hx, hgap⟩, hbranches⟩ := hw
  have hordinary : ∀ segment ∈ w.segments, segment.Ordinary := by
    simp only [segments, List.forall_mem_cons, List.forall_mem_append]
    exact ⟨Segment.ordinary_switch hx, Segment.ordinary_gap hgap, w.branches.ordinary_segments hbranches,
      Segment.ordinary_endwith, fun _ hm => absurd hm List.not_mem_nil⟩
  have hs : Segment.SoundAll w.segments := fun segment hm => (hordinary segment hm).sound
  have hplain : w.source.Plain := (Text.plain_spellAll_iff hs).mpr
    ⟨fun body hm => (hordinary _ hm).noLiteral body rfl,
      fun body hm => (hordinary _ hm).noInsertion body rfl⟩
  have htranslate : Tag.translate w.segments = .ok (Switch.around w.subject (w.gap ++ w.branches.draft)) := by
    have h := Tag.translate_aroundSwitch hx
      (Tag.translate_append (Tag.translate_chars w.gap) (w.branches.translate_segments hbranches))
      (show Tag.translate [] = .ok [] from rfl)
    simpa [segments] using h
  have hend : Tag.Gapped (statementOf [word "endwith"]) (statementOf [word "endwith"]) := by
    simpa using Tag.behind_nil.statement Lexeme.sound_endwith
  have hmerge : Tag.mergeStatements (Switch.around w.subject (w.gap ++ w.branches.draft)) = w.host := by
    have h := (w.branches.gapped_draft hbranches hend) w.gap hgap
    have hwhole := Tag.mergeFrom_statement (Lexeme.sound_entering hx) h none
    simpa only [Tag.mergeStatements, Switch.around, Switch.host, List.append_assoc] using hwhole
  rw [Switch.source, Compiler.compile_spellAll_eq_ok_iff hc hs hplain]
  exact ⟨_, htranslate, hmerge.symm⟩

end BraceTemplate
