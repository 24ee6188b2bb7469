import BraceTemplate.Proofs.Literal.RoundTrip
import BraceTemplate.Proofs.Single.Sigil
import BraceTemplate.Proofs.Single.Statement

namespace BraceTemplate

open Text

namespace LoopClause

-- The word `as`, in any case, with white space on both sides of it.
def HasAs (s : Text) : Prop :=
  ∃ before b spelling d behind, s = before ++ b :: (spelling ++ d :: behind) ∧
    Spells "as".toList spelling ∧ isBlank b = true ∧ isBlank d = true

section Find

variable {c : Char} {s : Text}

theorem afterAs?_of_blank (hc : isBlank c = true) (s : Text) :
    afterAs? (c :: s) = (takeWord "as".toList (Text.trimLeft s)).bind fun (_, rest) =>
      match rest with
      | [] => none
      | d :: _ => if isBlank d then some rest.trimLeft else none := by
  have hgap : ∀ d ∈ [c], isBlank d = true := by simpa using hc
  have htrim : Text.trimLeft (c :: s) = Text.trimLeft s := trimLeft_append_blanks hgap s
  simp only [afterAs?, hc, if_true, htrim]
  rfl

theorem isBlank_of_afterAs? (h : (afterAs? (c :: s)).isSome = true) : isBlank c = true := by
  by_contra hc
  simp [afterAs?, hc] at h

-- The last one of the blanks that a text starts with.
theorem exists_trimLeft (hc : isBlank c = true) (s : Text) :
    ∃ gap b, c :: s = gap ++ b :: Text.trimLeft s ∧ isBlank b = true := by
  induction s generalizing c with
  | nil => exact ⟨[], c, rfl, hc⟩
  | cons d s ih =>
      by_cases hd : isBlank d = true
      · obtain ⟨gap, b, he, hb⟩ := ih hd
        have hgap : ∀ e ∈ [d], isBlank e = true := by simpa using hd
        have htrim : Text.trimLeft (d :: s) = Text.trimLeft s := trimLeft_append_blanks hgap s
        exact ⟨c :: gap, b, by rw [htrim, he, List.cons_append], hb⟩
      · rw [trimLeft_cons_of_not_blank (by simpa using hd)]
        exact ⟨[], c, rfl, hc⟩

theorem cutAtAs_of_some {target : Text} (h : afterAs? (c :: s) = some target) :
    cutAtAs (c :: s) = some ([], target) := by
  rw [cutAtAs.eq_def]
  simp only [h]

theorem cutAtAs_of_none (h : afterAs? (c :: s) = none) :
    cutAtAs (c :: s) = (cutAtAs s).map fun (before, target) => (c :: before, target) := by
  rw [cutAtAs.eq_def]
  simp only [h]

theorem isSome_cutAtAs_iff :
    (cutAtAs s).isSome = true ↔ ∃ rest, rest <:+ s ∧ (afterAs? rest).isSome = true := by
  induction s with
  | nil =>
      refine ⟨fun h => absurd h Bool.false_ne_true, ?_⟩
      rintro ⟨rest, hrest, h⟩
      rw [List.suffix_nil.mp hrest] at h
      cases h
  | cons c s ih =>
      cases hafter : afterAs? (c :: s) with
      | some target =>
          rw [cutAtAs_of_some hafter]
          exact ⟨fun _ => ⟨c :: s, List.suffix_refl _, by rw [hafter]; rfl⟩, fun _ => rfl⟩
      | none =>
          rw [cutAtAs_of_none hafter, Option.isSome_map, ih]
          constructor
          · rintro ⟨rest, hrest, h⟩
            exact ⟨rest, hrest.trans (List.suffix_cons c s), h⟩
          · rintro ⟨rest, hrest, h⟩
            rcases List.suffix_cons_iff.mp hrest with rfl | hrest
            · rw [hafter] at h
              cases h
            · exact ⟨rest, hrest, h⟩

-- A clause is split if and only if the word is in it.
theorem hasAs_iff : HasAs s ↔ (cutAtAs s).isSome = true := by
  rw [isSome_cutAtAs_iff]
  constructor
  · rintro ⟨before, b, spelling, d, behind, rfl, hspelling, hb, hd⟩
    refine ⟨b :: (spelling ++ d :: behind), List.suffix_append _ _, ?_⟩
    have htrim : Text.trimLeft (spelling ++ d :: behind) = spelling ++ d :: behind := by
      cases hspelling with
      | cons hletter _ =>
          refine trimLeft_cons_of_not_blank ?_ _
          rcases (Tag.sameLetter_iff (by decide) (by decide)).mp hletter with rfl | rfl <;> decide
    rw [afterAs?_of_blank hb, htrim, takeWord_eq_some_iff.mpr ⟨rfl, hspelling⟩]
    simp [hd]
  · rintro ⟨rest, ⟨before, rfl⟩, h⟩
    cases rest with
    | nil => cases h
    | cons c rest =>
        have hc := isBlank_of_afterAs? h
        obtain ⟨gap, b, he, hb⟩ := exists_trimLeft hc rest
        rw [afterAs?_of_blank hc] at h
        obtain ⟨target, htarget⟩ := Option.isSome_iff_exists.mp h
        obtain ⟨⟨spelling, tail⟩, hword, htail⟩ := Option.bind_eq_some_iff.mp htarget
        obtain ⟨htrim, hspelling⟩ := takeWord_eq_some_iff.mp hword
        cases tail with
        | nil => cases htail
        | cons d behind =>
            have hd : isBlank d = true := by
              by_contra hd
              simp [hd] at htail
            refine ⟨before ++ gap, b, spelling, d, behind, ?_, hspelling, hb, hd⟩
            rw [he, htrim, List.append_assoc]

end Find

section Cut

variable {E : Text}

theorem trimLeft_append_of_stop (h : ∃ d ∈ E, isBlank d = false) (t : Text) :
    Text.trimLeft (E ++ t) = Text.trimLeft E ++ t := by
  have hne : Text.trimLeft E ≠ [] := by
    rw [Text.trimLeft, ne_eq, List.dropWhile_eq_nil_iff]
    intro hall
    obtain ⟨d, hd, hblank⟩ := h
    rw [hall d hd] at hblank
    cases hblank
  rw [Text.trimLeft, List.dropWhile_append, if_neg (by simpa [Text.trimLeft] using hne), Text.trimLeft]

-- Whether the word is next in a text that ends with no blank does not hang on what is behind the blank
-- after it.
theorem isSome_afterAs?_append (hne : E ≠ []) (hlast : ∀ d ∈ E.getLast?, isBlank d = false) (t : Text) :
    (afterAs? (E ++ ' ' :: t)).isSome = (afterAs? (E ++ [' '])).isSome := by
  obtain ⟨c, E, rfl⟩ := List.exists_cons_of_ne_nil hne
  by_cases hc : isBlank c = true
  · have hstop : ∃ d ∈ E, isBlank d = false := by
      cases E with
      | nil => exact absurd (hlast c rfl) (by simp [hc])
      | cons d E =>
          have hmem : (d :: E).getLast (by simp) ∈ (c :: d :: E).getLast? := by
            rw [List.getLast?_cons_cons, List.getLast?_eq_some_getLast (by simp)]
            rfl
          exact ⟨_, List.getLast_mem _, hlast _ hmem⟩
    have htrim := trimLeft_append_of_stop hstop
    have hletters : ∀ l ∈ "as".toList, sameLetter l ' ' = false := by decide
    rw [List.cons_append, List.cons_append, afterAs?_of_blank hc, afterAs?_of_blank hc, htrim, htrim,
      takeWord_append_cons _ _ _ hletters, takeWord_append_cons _ _ _ hletters]
    cases takeWord "as".toList (Text.trimLeft E) with
    | none => rfl
    | some found =>
        obtain ⟨spelling, left⟩ := found
        cases left with
        | nil => rfl
        | cons d left =>
            simp only [Option.map_some, Option.bind_some, List.cons_append]
            split <;> rfl
  · simp [afterAs?, hc]

-- With white space around it, the first `as` behind an expression splits a clause there, unless there is
-- an `as` in the expression.
theorem cutAtAs_clause (hlast : ∀ d ∈ E.getLast?, isBlank d = false) (h : ¬ HasAs (E ++ [' ']))
    (t : Text) : cutAtAs (E ++ ' ' :: 'a' :: 's' :: ' ' :: t) = some (E, t.trimLeft) := by
  rw [hasAs_iff] at h
  induction E with
  | nil => rfl
  | cons c E ih =>
      rw [List.cons_append] at h
      have hshort : afterAs? (c :: (E ++ [' '])) = none := by
        by_contra hsome
        obtain ⟨target, htarget⟩ := Option.ne_none_iff_exists'.mp hsome
        rw [cutAtAs_of_some htarget] at h
        exact h rfl
      have hnone : afterAs? (c :: (E ++ ' ' :: 'a' :: 's' :: ' ' :: t)) = none := by
        have hsame := isSome_afterAs?_append (E := c :: E) (by simp) hlast ('a' :: 's' :: ' ' :: t)
        rw [List.cons_append, List.cons_append, hshort] at hsame
        simpa using hsame
      rw [cutAtAs_of_none hshort, Option.isSome_map] at h
      rw [List.cons_append, cutAtAs_of_none hnone,
        ih (fun d hd => hlast d (by simp [List.getLast?_cons, Option.mem_def.mp hd])) h]
      rfl

-- An `as` in an expression splits the clause before the expression ends.
theorem exists_cutAtAs_of_hasAs (hlast : ∀ d ∈ E.getLast?, isBlank d = false) (h : HasAs (E ++ [' ']))
    (t : Text) :
    ∃ front rest target, E = front ++ rest ∧ rest ≠ [] ∧ cutAtAs (E ++ ' ' :: t) = some (front, target) := by
  rw [hasAs_iff] at h
  induction E with
  | nil => exact absurd h Bool.false_ne_true
  | cons c E ih =>
      have hsame := isSome_afterAs?_append (E := c :: E) (by simp) hlast t
      rw [List.cons_append, List.cons_append] at hsame
      cases hafter : afterAs? (c :: (E ++ ' ' :: t)) with
      | some target => exact ⟨[], c :: E, target, rfl, by simp, cutAtAs_of_some hafter⟩
      | none =>
          have hshort : afterAs? (c :: (E ++ [' '])) = none := by
            rw [hafter] at hsame
            simpa using hsame.symm
          rw [List.cons_append, cutAtAs_of_none hshort, Option.isSome_map] at h
          obtain ⟨front, rest, target, rfl, hrest, hcut⟩ :=
            ih (fun d hd => hlast d (by simp [List.getLast?_cons, Option.mem_def.mp hd])) h
          refine ⟨c :: front, rest, target, rfl, hrest, ?_⟩
          rw [List.cons_append, cutAtAs_of_none hafter, hcut]
          rfl

end Cut

end LoopClause

section Binder

variable {E v : Text} {binder : Binder}

theorem isWordChar_of_isIdentifier (hv : Statement.isIdentifier v = true) : ∀ d ∈ v, isWordChar d = true := by
  obtain ⟨c, w, rfl, hc, hw⟩ := Statement.exists_of_isIdentifier hv
  rw [List.forall_mem_cons]
  exact ⟨isWordChar_of_isNameStart hc, hw⟩

theorem strip_identifier_append (hv : Statement.isIdentifier v = true) (t : Text) :
    Sigil.strip ('$' :: (v ++ t)) = v ++ Sigil.strip t := by
  have hplain : ∀ d ∈ v, d ≠ '$' ∧ d ≠ '\'' ∧ d ≠ '"' := by
    intro d hd
    have hword := isWordChar_of_isIdentifier hv d hd
    refine ⟨?_, ?_, ?_⟩ <;> (rintro rfl; exact absurd hword (by decide))
  rw [← Sigil.strip_append hplain]
  obtain ⟨c, w, rfl, hc, -⟩ := Statement.exists_of_isIdentifier hv
  exact Sigil.strip_dollar hc _

theorem strip_identifier (hv : Statement.isIdentifier v = true) : Sigil.strip ('$' :: v) = v := by
  have h := strip_identifier_append hv []
  rwa [List.append_nil, show Sigil.strip [] = [] from rfl, List.append_nil] at h

-- A clause starts with a dollar sign and ends in a name.
theorem trimmed_clause (hnames : ∀ x ∈ binder.names, Statement.isIdentifier x = true) :
    Trimmed binder.clause := by
  obtain ⟨front, v, heq, hv⟩ : ∃ front v, binder.clause = '$' :: front ++ v ∧
      Statement.isIdentifier v = true := by
    cases binder with
    | value v => exact ⟨[], v, rfl, hnames v (by simp [Binder.names])⟩
    | pair k v =>
        exact ⟨k ++ [' ', '=', '>', ' ', '$'], v, by simp [Binder.clause], hnames v (by simp [Binder.names])⟩
  have hne : v ≠ [] := by
    rintro rfl
    cases hv
  rw [heq]
  refine ⟨by simp; decide, fun d hd => ?_⟩
  rw [List.getLast?_append_of_ne_nil _ hne] at hd
  exact isBlank_eq_false_of_isWordChar (isWordChar_of_isIdentifier hv d (List.mem_of_getLast? hd))

theorem clause_ne_nil (binder : Binder) : binder.clause ≠ [] := by
  cases binder <;> exact List.cons_ne_nil _ _

-- The names that a clause binds are read from the text behind the word.
theorem names_clause (hnames : ∀ x ∈ binder.names, Statement.isIdentifier x = true) (items : Text) :
    (match cutAtText "=>".toList (Sigil.strip binder.clause) with
      | some (key, value) => LoopClause.pairs items key.trim value.trim
      | none => .values items (Sigil.strip binder.clause)) = binder.loopClause items := by
  have hplain : ∀ {x}, Statement.isIdentifier x = true → (∀ d ∈ x, isBlank d = false) ∧ '=' ∉ x := by
    intro x hx
    refine ⟨fun d hd => isBlank_eq_false_of_isWordChar (isWordChar_of_isIdentifier hx d hd), fun hm => ?_⟩
    exact absurd (isWordChar_of_isIdentifier hx _ hm) (by decide)
  cases binder with
  | value v =>
      have hv := hnames v (by simp [Binder.names])
      have hcut : cutAtText "=>".toList v = none := cutAtText_eq_none (hplain hv).2
      rw [Binder.clause, strip_identifier hv, hcut]
      rfl
  | pair k v =>
      have hk := hnames k (by simp [Binder.names])
      have hv := hnames v (by simp [Binder.names])
      have hstrip : Sigil.strip (Binder.pair k v).clause = k ++ [' '] ++ '=' :: (['>'] ++ ' ' :: v) := by
        have hmark : ∀ d ∈ [' ', '=', '>', ' '], d ≠ '$' ∧ d ≠ '\'' ∧ d ≠ '"' := by decide
        have hrest := Sigil.strip_append hmark ('$' :: v)
        rw [strip_identifier hv] at hrest
        simp only [List.cons_append, List.nil_append] at hrest
        rw [Binder.clause, strip_identifier_append hk, hrest]
        simp
      have hno : '=' ∉ k ++ [' '] := by simpa using (hplain hk).2
      have hcut : cutAtText "=>".toList (k ++ [' '] ++ '=' :: (['>'] ++ ' ' :: v)) = some (k ++ [' '], ' ' :: v) :=
        cutAtText_append hno
      simp only [hstrip, hcut]
      rw [trim_append_blank (hplain hk).1 (by decide), trim_blank_cons (by decide),
        trim_eq_self_of_forall (hplain hv).1]
      rfl

-- Beside its names a clause is made of four characters.
theorem not_mem_clause (hnames : ∀ x ∈ binder.names, Statement.isIdentifier x = true) {d : Char}
    (hword : isWordChar d = false) (hmark : d ∉ ['$', ' ', '=', '>']) : d ∉ binder.clause := by
  have hname : ∀ x ∈ binder.names, d ∉ x := by
    intro x hx hm
    rw [isWordChar_of_isIdentifier (hnames x hx) d hm] at hword
    cases hword
  simp only [List.mem_cons, List.not_mem_nil, or_false, not_or] at hmark
  cases binder with
  | value v => simpa [Binder.clause, Binder.names, hmark] using hname
  | pair k v => simpa [Binder.clause, Binder.names, hmark] using hname

theorem trimmed_subject (hne : E ≠ []) (hE : E.Trimmed)
    (hnames : ∀ x ∈ binder.names, Statement.isIdentifier x = true) :
    Trimmed (E ++ ' ' :: 'a' :: 's' :: ' ' :: binder.clause) := by
  have hspelled : E ++ ' ' :: 'a' :: 's' :: ' ' :: binder.clause =
      (E ++ [' ', 'a', 's', ' ']) ++ binder.clause := by simp
  constructor
  · rw [List.head?_append_of_ne_nil _ hne]
    exact hE.start
  · rw [hspelled, List.getLast?_append_of_ne_nil _ (clause_ne_nil binder)]
    exact (trimmed_clause hnames).stop

-- With no `as` in the expression a loop runs over the whole of it.
theorem ofText_clause (hE : E.Trimmed) (has : ¬ LoopClause.HasAs (E ++ [' ']))
    (hnames : ∀ x ∈ binder.names, Statement.isIdentifier x = true) :
    LoopClause.ofText (E ++ ' ' :: 'a' :: 's' :: ' ' :: binder.clause) =
      binder.loopClause (Sigil.strip E) := by
  have hclause := trimmed_clause hnames
  have hcut := LoopClause.cutAtAs_clause hE.stop has binder.clause
  rw [trimLeft_eq_self hclause.start] at hcut
  simp only [LoopClause.ofText, hcut, hE.trim, hclause.trim]
  exact names_clause hnames (Sigil.strip E)

end Binder

-- What a clause runs over, where it says so itself.
def LoopClause.iterable? : LoopClause → Option Text
  | .plain _ => none
  | .values items _ => some items
  | .pairs items _ _ => some items

theorem LoopClause.iterable?_ofText {s front target : Text} (h : cutAtAs s = some (front, target)) :
    (ofText s).iterable? = some (Sigil.strip (Text.trim front)) := by
  simp only [ofText, h]
  split <;> rfl

-- The tag of a loop over an expression.
def Segment.ofLoop (E : Text) (binder : Binder) : Segment :=
  .group ("foreach ".toList ++ (E ++ ' ' :: 'a' :: 's' :: ' ' :: binder.clause))

theorem Tag.question_not_mem_loopHead {s : Text} (h : '?' ∉ s) :
    '?' ∉ loopHead (LoopClause.ofText s) := by
  have htexts : ∀ t ∈ (LoopClause.ofText s).texts, '?' ∉ t := fun t ht hq =>
    h (LoopClause.mem_of_ofText ht _ hq)
  generalize LoopClause.ofText s = clause at htexts
  cases clause with
  | plain clause => simpa [loopHead, LoopClause.texts] using htexts
  | values items target => simpa [loopHead, LoopClause.texts, and_comm] using htexts
  | pairs items key value =>
      simp only [LoopClause.texts, List.mem_cons, List.not_mem_nil, or_false, forall_eq_or_imp,
        forall_eq] at htexts
      simp [loopHead, htexts]

namespace Compiler

open Segment

variable {c : Compiler} (fs : FileSystem) {E k v : Text} {binder : Binder}

-- The tag of a loop is compiled by what its clause is read as.
theorem compile_loop (hne : E ≠ []) (hE : E.Trimmed) (hb : E.BraceFree) (hq : '?' ∉ E)
    (hnames : ∀ x ∈ binder.names, Statement.isIdentifier x = true) :
    c.compile fs (ofLoop E binder).spell = c.extended (Host.statement ("for ".toList ++
      Tag.loopHead (LoopClause.ofText (E ++ ' ' :: 'a' :: 's' :: ' ' :: binder.clause)))) := by
  have htrimmed := trimmed_subject hne hE hnames
  have hno : '?' ∉ binder.clause := not_mem_clause hnames (by decide) (by decide)
  have hopen : '\x7b' ∉ binder.clause := not_mem_clause hnames (by decide) (by decide)
  have hclose : '\x7d' ∉ binder.clause := not_mem_clause hnames (by decide) (by decide)
  have hsubject : '?' ∉ E ++ ' ' :: 'a' :: 's' :: ' ' :: binder.clause := by simp [hq, hno]
  have hbody : BraceFree ("foreach ".toList ++ (E ++ ' ' :: 'a' :: 's' :: ' ' :: binder.clause)) := by
    rw [braceFree_iff_not_mem] at hb ⊢
    simp [hb, hopen, hclose]
  have hread : Tag.read ("foreach ".toList ++ (E ++ ' ' :: 'a' :: 's' :: ' ' :: binder.clause)) =
      some (.opening "foreach".toList
        (Text.trim (Text.trimLeft (E ++ ' ' :: 'a' :: 's' :: ' ' :: binder.clause)))) := rfl
  rw [trimLeft_eq_self htrimmed.start, htrimmed.trim] at hread
  rw [ofLoop, compile_tag fs hbody rfl rfl hread rfl]
  have hout : Tag.openBlock (lowerText "foreach".toList) (E ++ ' ' :: 'a' :: 's' :: ' ' :: binder.clause) =
      Host.statement ("for ".toList ++
        Tag.loopHead (LoopClause.ofText (E ++ ' ' :: 'a' :: 's' :: ' ' :: binder.clause))) := rfl
  rw [hout, Tag.mergeStatements_statement]
  simpa using Tag.question_not_mem_loopHead hsubject

-- A loop runs over the whole of its expression, whatever that is, unless there is an `as` in it: the first
-- one splits the clause, in a string literal too, and the loop runs over what comes before.
theorem compile_loop_whole (hne : E ≠ []) (hE : E.Trimmed) (hb : E.BraceFree) (hq : '?' ∉ E)
    (hk : Statement.isIdentifier k = true) (hv : Statement.isIdentifier v = true) :
    (¬ LoopClause.HasAs (E ++ [' ']) →
      c.compile fs (ofLoop E (.value v)).spell =
          c.extended (Host.statement
            ("for ".toList ++ (v ++ " in (".toList ++ Sigil.strip E ++ ") | values".toList))) ∧
        c.compile fs (ofLoop E (.pair k v)).spell =
          c.extended (Host.statement
            ("for ".toList ++
              (k ++ ", ".toList ++ v ++ " in (".toList ++ Sigil.strip E ++ ") | pairs".toList)))) ∧
    (LoopClause.HasAs (E ++ [' ']) → ∀ binder ∈ [Binder.value v, .pair k v],
      ∃ front rest clause, E = front ++ rest ∧ rest ≠ [] ∧
        clause.iterable? = some (Sigil.strip (Text.trim front)) ∧
        c.compile fs (ofLoop E binder).spell =
          c.extended (Host.statement ("for ".toList ++ Tag.loopHead clause))) := by
  have hnames : ∀ binder ∈ [Binder.value v, .pair k v],
      ∀ x ∈ binder.names, Statement.isIdentifier x = true := by
    simp [Binder.names, hk, hv]
  have hcompiled := fun binder hm => compile_loop (c := c) fs hne hE hb hq (hnames binder hm)
  constructor
  · intro has
    have hread := fun binder hm => ofText_clause hE has (hnames binder hm)
    rw [hcompiled (.value v) (by simp), hcompiled (.pair k v) (by simp), hread (.value v) (by simp),
      hread (.pair k v) (by simp)]
    exact ⟨rfl, rfl⟩
  · intro has binder hm
    obtain ⟨front, rest, target, he, hrest, hcut⟩ :=
      LoopClause.exists_cutAtAs_of_hasAs hE.stop has ('a' :: 's' :: ' ' :: binder.clause)
    exact ⟨front, rest, _, he, hrest, LoopClause.iterable?_ofText hcut, hcompiled binder hm⟩

-- The word with a dollar sign or a quote before it does not split a clause, and neither does an arrow before
-- the word that does.
theorem compile_loop_whole_quoted :
    let c : Compiler := ⟨default, defaultMaxDepth, [], defaultRoom⟩
    let fs : FileSystem := .ofFiles fun _ => none
    c.compile fs "\x7bforeach $as ~ 'as =>' as $_v\x7d".toList =
        .ok "<?py for _v in (as ~ 'as =>') | values ?>".toList ∧
      c.compile fs "\x7bforeach $as ~ 'as =>' as $k1 => $_v\x7d".toList =
        .ok "<?py for k1, _v in (as ~ 'as =>') | pairs ?>".toList := by
  intro c fs
  have has : ¬ LoopClause.HasAs ("$as ~ 'as =>'".toList ++ [' ']) :=
    LoopClause.hasAs_iff.not.mpr (by decide)
  obtain ⟨hvalue, hpair⟩ := (compile_loop_whole (c := c) fs (E := "$as ~ 'as =>'".toList)
    (k := "k1".toList) (v := "_v".toList) (by decide) (by decide) (by decide) (by decide) (by decide)
    (by decide)).1 has
  rw [extended_eq rfl] at hvalue hpair
  exact ⟨hvalue, hpair⟩

-- A string literal with the word in it is cut in two.
theorem compile_loop_departs :
    let c : Compiler := ⟨default, defaultMaxDepth, [], defaultRoom⟩
    let fs : FileSystem := .ofFiles fun _ => none
    (∃ parts, Sigil.spellAll parts = "'a as b'".toList) ∧ Trimmed "'a as b'".toList ∧
      BraceFree "'a as b'".toList ∧ '?' ∉ "'a as b'".toList ∧
      c.compile fs "\x7bforeach 'a as b' as $v\x7d".toList =
        .ok "<?py for b' as v in ('a) | values ?>".toList ∧
      c.compile fs "\x7bforeach 'a as b' as $v\x7d".toList ≠
        .ok (Host.statement
          ("for v in (".toList ++ (Sigil.strip "'a as b'".toList ++ ") | values".toList))) := by
  intro c fs
  have hbody : Sigil.Enclosed '\'' "a as b".toList := by
    iterate 6 refine .char (by decide) (by decide) ?_
    exact .nil
  refine ⟨⟨[.literal '\'' "a as b".toList (by decide) hbody], rfl⟩, by decide, by decide, by decide, ?_⟩
  decide +kernel

end Compiler

end BraceTemplate
