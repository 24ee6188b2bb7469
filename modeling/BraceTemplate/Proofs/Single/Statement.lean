import BraceTemplate.Proofs.Single.Group
import BraceTemplate.Proofs.Single.Parts
import BraceTemplate.Proofs.Verbatim.Plain

namespace BraceTemplate

open Text

section WordChar

variable {c : Char}

theorem isBlank_eq_false_of_isWordChar (h : isWordChar c = true) : isBlank c = false :=
  Tag.isBlank_eq_false_of_isListChar (by simp [Tag.isListChar, h])

theorem isWordChar_of_isNameStart (h : Sigil.isNameStart c = true) : isWordChar c = true := by
  have hpart := isNamePart_of_start h
  rwa [isWordChar, if_pos (toNat_lt_of_namePart hpart)]

theorem isBlank_eq_false_of_isNameStart (h : Sigil.isNameStart c = true) : isBlank c = false :=
  isBlank_eq_false_of_isWordChar (isWordChar_of_isNameStart h)

end WordChar

namespace Sigil

variable {c : Char} {s : Text}

-- A text keeps its first character, unless that is the dollar sign of a variable.
theorem strip_cons_cases (c : Char) (s : Text) :
    (∃ d t, c = '$' ∧ s = d :: t ∧ isNameStart d = true) ∨ ∃ t, strip (c :: s) = c :: t := by
  cases hf : find none (c :: s) with
  | none =>
      rw [strip, Piece.scan_eq_cut, Piece.cut_of_none hf]
      exact .inr ⟨_, rfl⟩
  | some found =>
      obtain ⟨kept, after⟩ := found
      have hstrip : ∃ t, strip (c :: s) = kept ++ t := by
        simp only [strip, Piece.scan, List.length_cons, Piece.scanFrom, hf]
        exact ⟨_, rfl⟩
      unfold find at hf
      split at hf
      · next d rest he =>
        obtain ⟨rfl, rfl⟩ := List.cons.inj he
        split at hf
        · next hd => exact .inl ⟨d, rest, rfl, rfl, hd⟩
        · cases hf
      · next d rest _ he =>
        obtain ⟨rfl, rfl⟩ := List.cons.inj he
        split at hf
        · obtain ⟨⟨body, tail⟩, -, he⟩ := Option.map_eq_some_iff.mp hf
          obtain ⟨rfl, -⟩ := Prod.mk.inj he
          obtain ⟨t, ht⟩ := hstrip
          exact .inr ⟨body ++ t, ht⟩
        · cases hf
      · cases hf

-- What holds of the first character of a text and of the first characters of names still holds.
theorem exists_strip_eq_cons {P : Char → Prop} (hname : ∀ d, isNameStart d = true → P d)
    (hs : s ≠ []) (hhead : ∀ d ∈ s.head?, P d) : ∃ d t, strip s = d :: t ∧ P d := by
  obtain ⟨c, s, rfl⟩ := List.exists_cons_of_ne_nil hs
  rcases strip_cons_cases c s with ⟨d, t, rfl, rfl, hd⟩ | ⟨t, ht⟩
  · have hplain : ∀ e ∈ [d], e ≠ '$' ∧ e ≠ '\'' ∧ e ≠ '"' := by
      simp only [List.mem_singleton, forall_eq]
      refine ⟨?_, ?_, ?_⟩ <;> (rintro rfl; exact absurd hd (by decide))
    exact ⟨d, strip t, (strip_dollar hd t).trans (strip_append hplain t), hname d hd⟩
  · exact ⟨c, t, ht, hhead c rfl⟩

end Sigil

namespace Statement

-- A letter or an underscore, and characters of words.
def isIdentifier : Text → Bool
  | [] => false
  | c :: rest => Sigil.isNameStart c && rest.all isWordChar

-- Identifiers with one dot between neighbours.
def isTarget (t : Text) : Bool :=
  (Text.split '.' t).all isIdentifier

-- The operators that may be joined to an equals sign.
def updating : List Text :=
  ["+", "-", "*", "/", "//", "%", "**", "~", "."].map String.toList

def comparing : List Text :=
  ["==", "!=", "<=", ">=", "<", ">"].map String.toList

-- What a statement may assign: a text without braces and question marks that is no part of what comes
-- before it or of the end of the tag.
structure IsValue (v : Text) : Prop where
  ne_nil : v ≠ []
  braceFree : v.BraceFree
  question : '?' ∉ v
  trimmed : v.Trimmed
  start : v.head? ≠ some '='
  stop : v.getLast? ≠ some ';'

theorem exists_of_isIdentifier {part : Text} (h : isIdentifier part = true) :
    ∃ c w, part = c :: w ∧ Sigil.isNameStart c = true ∧ ∀ d ∈ w, isWordChar d = true := by
  cases part with
  | nil => cases h
  | cons c w =>
      rw [isIdentifier, Bool.and_eq_true, List.all_eq_true] at h
      exact ⟨c, w, rfl, h⟩

-- A target is an identifier and the identifiers behind it, each after a dot.
theorem exists_of_isTarget {t : Text} (h : isTarget t = true) :
    ∃ c w, ∃ parts : List Text, t = c :: (w ++ parts.flatMap ('.' :: ·)) ∧
      Sigil.isNameStart c = true ∧ (∀ d ∈ w, isWordChar d = true) ∧ ∀ part ∈ parts, isIdentifier part = true := by
  rw [isTarget, List.all_eq_true] at h
  obtain ⟨first, parts, hsplit⟩ := List.exists_cons_of_ne_nil (split_ne_nil '.' t)
  rw [hsplit, List.forall_mem_cons] at h
  obtain ⟨c, w, rfl, hc, hw⟩ := exists_of_isIdentifier h.1
  refine ⟨c, w, parts, ?_, hc, hw, h.2⟩
  rw [← join_split '.' t, hsplit, join_cons, List.cons_append]

-- What a tag, a string or a statement of the host begins or ends with.
def special : List Char :=
  ['$', '\'', '"', '?', '\x7b', '\x7d']

theorem not_mem_special {p : Char → Bool} (hp : ∀ d ∈ special, p d = false) {d : Char}
    (hd : p d = true) : d ∉ special := fun hm => by
  rw [hp d hm] at hd
  cases hd

section Cut

variable {c d : Char} {s w x : Text}

theorem afterEquals?_cons (h : s.head? ≠ some '=') : afterEquals? ('=' :: s) = some s := by
  simp [afterEquals?, h]

theorem operator?_updating {operator : Text} (hop : operator ∈ updating) (h : s.head? ≠ some '=') :
    operator? (operator ++ '=' :: s) = some (operator, s) := by
  simp only [updating, List.map_cons, List.map_nil, List.mem_cons, List.not_mem_nil, or_false] at hop
  rcases hop with rfl | rfl | rfl | rfl | rfl | rfl | rfl | rfl | rfl <;>
    simp [operator?, afterEquals?_cons h, singleOperators]

theorem operator?_equals (s : Text) : operator? ('=' :: s) = none := rfl

theorem operator?_comparing {comparison : Text} (hcmp : comparison ∈ comparing) (s : Text) :
    operator? (comparison ++ s) = none ∧ afterEquals? (comparison ++ s) = none := by
  simp only [comparing, List.map_cons, List.map_nil, List.mem_cons, List.not_mem_nil, or_false] at hcmp
  rcases hcmp with rfl | rfl | rfl | rfl | rfl | rfl <;> exact ⟨rfl, rfl⟩

theorem operator?_of_isWordChar (h : isWordChar c = true) (s : Text) : operator? (c :: s) = none := by
  have hno : ∀ d ∈ singleOperators, isWordChar d = false := by decide
  have hc : c ∉ singleOperators := fun hm => by
    rw [hno c hm] at h
    cases h
  have hstar : c ≠ '*' := fun he => hc (by simp [he, singleOperators])
  have hslash : c ≠ '/' := fun he => hc (by simp [he, singleOperators])
  unfold operator?
  split <;> simp_all

-- A target goes on over a character where no operator comes next.
theorem cutAtOperator_cons (hop : operator? (Text.trimLeft (c :: s)) = none)
    (hc : isTargetChar c = true) :
    cutAtOperator (c :: s) =
      (cutAtOperator s).map fun (target, operator, value) => (c :: target, operator, value) := by
  rw [cutAtOperator.eq_def]
  simp only [hop, if_pos hc]

theorem cutAtOperator_word (hw : ∀ d ∈ w, isWordChar d = true) (x : Text) :
    cutAtOperator (w ++ x) =
      (cutAtOperator x).map fun (target, operator, value) => (w ++ target, operator, value) := by
  induction w with
  | nil => simp
  | cons c w ih =>
      have hc := hw c (by simp)
      have hop : operator? (Text.trimLeft (c :: (w ++ x))) = none := by
        rw [trimLeft_cons_of_not_blank (isBlank_eq_false_of_isWordChar hc)]
        exact operator?_of_isWordChar hc _
      rw [List.cons_append, cutAtOperator_cons hop (by simp [isTargetChar, hc]),
        ih fun d hd => hw d (List.mem_cons_of_mem _ hd), Option.map_map]
      rfl

-- A dot before an identifier is no operator.
theorem cutAtOperator_dotted {parts : List Text} (hparts : ∀ part ∈ parts, isIdentifier part = true)
    (x : Text) :
    cutAtOperator (parts.flatMap ('.' :: ·) ++ x) =
      (cutAtOperator x).map fun (target, operator, value) =>
        (parts.flatMap ('.' :: ·) ++ target, operator, value) := by
  induction parts with
  | nil => simp
  | cons part parts ih =>
      obtain ⟨c, w, rfl, hc, hw⟩ := exists_of_isIdentifier (hparts part (by simp))
      have hop :
          operator? (Text.trimLeft ('.' :: (c :: w ++ (parts.flatMap ('.' :: ·) ++ x)))) = none := by
        have hne : c ≠ '=' := by
          rintro rfl
          exact absurd hc (by decide)
        simp [trimLeft_cons_of_not_blank (show isBlank '.' = false by decide), operator?, afterEquals?, hne]
      have hword : ∀ d ∈ c :: w, isWordChar d = true :=
        List.forall_mem_cons.mpr ⟨isWordChar_of_isNameStart hc, hw⟩
      rw [List.flatMap_cons, List.append_assoc, List.cons_append, cutAtOperator_cons hop rfl,
        cutAtOperator_word hword, ih fun other hm => hparts other (List.mem_cons_of_mem _ hm)]
      simp only [Option.map_map]
      congr 1
      funext found
      simp

theorem cutAtOperator_of_some {operator value : Text} (hx : x ≠ [])
    (hop : operator? x.trimLeft = some (operator, value)) :
    cutAtOperator x = some ([], operator, value.trimLeft) := by
  obtain ⟨c, x, rfl⟩ := List.exists_cons_of_ne_nil hx
  rw [cutAtOperator.eq_def]
  simp only [hop]

theorem cutAtOperator_of_none (hend : ∀ d ∈ x.head?, isTargetChar d = false)
    (hop : operator? x.trimLeft = none) : cutAtOperator x = none := by
  rw [cutAtOperator.eq_def]
  cases x with
  | nil => rfl
  | cons d x => simp only [hop, hend d rfl, Bool.false_eq_true, if_false]

end Cut

section Target

variable {t x : Text}

-- Whatever comes after a target, the target is all that comes before an operator.
theorem cutAtOperator_target {w : Text} {parts : List Text}
    (hw : ∀ d ∈ w, isWordChar d = true) (hparts : ∀ part ∈ parts, isIdentifier part = true)
    (x : Text) :
    cutAtOperator (w ++ parts.flatMap ('.' :: ·) ++ x) =
      (cutAtOperator x).map fun (target, operator, value) =>
        (w ++ parts.flatMap ('.' :: ·) ++ target, operator, value) := by
  rw [List.append_assoc, cutAtOperator_word hw, cutAtOperator_dotted hparts, Option.map_map]
  congr 1
  funext found
  simp

-- A joined operator behind a target makes an update of it.
theorem ofText_update {operator value : Text} (ht : isTarget t = true) (hx : x ≠ [])
    (hop : operator? x.trimLeft = some (operator, value)) :
    ofText (t ++ x) = .update t (hostOperator operator) value.trimLeft := by
  obtain ⟨c, w, parts, rfl, hc, hw, hparts⟩ := exists_of_isTarget ht
  have hcut : cutAtOperator (w ++ parts.flatMap ('.' :: ·) ++ x) =
      some (w ++ parts.flatMap ('.' :: ·), operator, value.trimLeft) := by
    rw [cutAtOperator_target hw hparts, cutAtOperator_of_some hx hop]
    simp only [Option.map_some, List.append_nil]
  simp only [List.cons_append, ofText, hc, if_true, hcut, Option.map_some, Option.getD_some]

theorem isTargetChar_of_mem {c : Char} (ht : isTarget t = true) (h : c ∈ t) : isTargetChar c = true := by
  obtain ⟨d, w, parts, rfl, hd, hw, hparts⟩ := exists_of_isTarget ht
  have hword : isWordChar c = true ∨ c = '.' := by
    simp only [List.mem_cons, List.mem_append, List.mem_flatMap] at h
    rcases h with rfl | h | ⟨part, hm, rfl | h⟩
    · exact .inl (isWordChar_of_isNameStart hd)
    · exact .inl (hw c h)
    · exact .inr rfl
    · obtain ⟨e, v, rfl, he, hv⟩ := exists_of_isIdentifier (hparts part hm)
      rcases List.mem_cons.mp h with rfl | h
      · exact .inl (isWordChar_of_isNameStart he)
      · exact .inl (hv c h)
  simpa [isTargetChar] using hword

-- Without an operator a single equals sign makes an assignment, and anything else none.
theorem ofText_other (ht : isTarget t = true) (hend : ∀ d ∈ x.head?, isTargetChar d = false)
    (hop : operator? x.trimLeft = none) :
    ofText (t ++ x) =
      if (afterEquals? x.trimLeft).isSome then .set (t ++ x) else .perform (t ++ x) := by
  have hchars : ∀ d ∈ t, isTargetChar d = true := fun d => isTargetChar_of_mem ht
  obtain ⟨c, w, parts, rfl, hc, hw, hparts⟩ := exists_of_isTarget ht
  have hcut : cutAtOperator (w ++ parts.flatMap ('.' :: ·) ++ x) = none := by
    rw [cutAtOperator_target hw hparts, cutAtOperator_of_none hend hop, Option.map_none]
  have hdrop : (w ++ parts.flatMap ('.' :: ·) ++ x).dropWhile isTargetChar = x := by
    rw [List.dropWhile_append_of_pos fun d hd => hchars d (List.mem_cons_of_mem _ hd)]
    cases x with
    | nil => rfl
    | cons d x => exact List.dropWhile_cons_of_neg (by simp [hend d rfl])
  simp only [List.cons_append, ofText, hc, if_true, hcut, Option.map_none, Option.getD_none,
    isAssignment, hdrop, Bool.true_and]

end Target

theorem question_not_mem_hostStatement {s : Text} (h : '?' ∉ s) :
    '?' ∉ Tag.hostStatement (ofText s) := by
  have htexts : ∀ part ∈ (ofText s).texts, '?' ∉ part := fun part hm hq =>
    (mem_of_ofText hm _ hq).elim h (by decide)
  generalize ofText s = statement at htexts
  rw [Tag.hostStatement.eq_def]
  cases statement with
  | update target operator value => simpa [texts] using htexts
  | set body => simpa [texts] using htexts
  | perform body => simpa [texts] using htexts

end Statement

namespace Tag

theorem mergeStatements_statement {body : Text} (h : '?' ∉ body) :
    mergeStatements (Host.statement body) = Host.statement body := by
  have hspelled : Host.statement body =
      '<' :: '?' :: 'p' :: ('y' :: ' ' :: body ++ [' '] ++ Host.statementClose) := by
    simp [Host.statement, Host.statementOpen]
  have hinner : '?' ∉ 'y' :: ' ' :: body ++ [' '] := by simp [h]
  have hend : ∀ before, mergeFrom before Host.statementClose = Host.statementClose := by
    intro before
    have hnone : merge? before Host.statementClose = none := by
      rw [Host.statementClose, show "?>".toList = ['?', '>'] from rfl, merge?_statementEnd]
      split <;> rfl
    exact mergeFrom_of_none hnone
  rw [hspelled, mergeStatements, mergeFrom_of_none (merge?_of_ne (by decide) _ _),
    mergeFrom_of_none (merge?_question (by decide) _ _),
    mergeFrom_of_none (merge?_of_ne (by decide) _ _), mergeFrom_append_of_not_mem hinner, hend]

end Tag

-- The tag of a statement that starts with a variable.
def Segment.ofStatement (gap body : Text) : Segment :=
  .group ("php".toList ++ (gap ++ '$' :: body))

namespace Compiler

open Statement

variable {c : Compiler} (fs : FileSystem) {gap t x v before behind : Text}

theorem read_statement (hgap : gap ≠ []) (hblank : ∀ d ∈ gap, isBlank d = true) (hv : IsValue v)
    (s : Text) :
    Tag.read ('p' :: 'h' :: 'p' :: (gap ++ '$' :: (s ++ v))) = some (.statement ('$' :: (s ++ v))) := by
  obtain ⟨b, gap, rfl⟩ := List.exists_cons_of_ne_nil hgap
  have hlast : ('$' :: (s ++ v)).getLast? = v.getLast? := by
    rw [← List.cons_append, List.getLast?_append_of_ne_nil _ hv.ne_nil]
  have hskip : Tag.skipBlanks? (b :: gap ++ '$' :: (s ++ v)) = some ('$' :: (s ++ v)) := by
    rw [List.cons_append, Tag.skipBlanks?, if_pos (hblank b (by simp)),
      trimLeft_append_blanks fun d hd => hblank d (List.mem_cons_of_mem _ hd)]
    rfl
  have htrimmed : Text.Trimmed ('$' :: (s ++ v)) :=
    ⟨by simp; decide, fun d hd => hv.trimmed.stop d (hlast ▸ hd)⟩
  obtain ⟨other, hread⟩ : ∃ other, Tag.read ('p' :: 'h' :: 'p' :: (b :: gap ++ '$' :: (s ++ v))) =
      (Tag.readStatement "php" .statement ('p' :: 'h' :: 'p' :: (b :: gap ++ '$' :: (s ++ v)))).or other :=
    ⟨_, rfl⟩
  have hbody : Tag.bodyAfterWord ["php".toList] ('p' :: 'h' :: 'p' :: (b :: gap ++ '$' :: (s ++ v))) =
      (Tag.skipBlanks? (b :: gap ++ '$' :: (s ++ v))).bind fun inner => some ("php".toList, inner) := rfl
  have htrim : Text.trim (trimStatementEnd ('$' :: (s ++ v))) = '$' :: (s ++ v) := by
    rw [trimStatementEnd_eq_self htrimmed.stop (by rw [hlast]; exact hv.stop), htrimmed.trim]
  rw [hread, Tag.readStatement, hbody, hskip, Option.bind_some, Option.map_some, Option.some_or]
  simp only [htrim]

-- A statement on a target is compiled by what stands between the target and the value.
theorem compile_statement (hgap : gap ≠ []) (hblank : ∀ d ∈ gap, isBlank d = true)
    (ht : isTarget t = true) (hx : ∀ d ∈ x, d ∉ special) (hv : IsValue v) :
    c.compile fs (Segment.ofStatement gap (t ++ (x ++ v))).spell =
      c.extended (Host.statement (Tag.hostStatement (ofText (t ++ (x ++ Sigil.strip v))))) := by
  have htarget : ∀ d ∈ t, d ∉ special := fun d hd =>
    not_mem_special (p := isTargetChar) (by decide) (isTargetChar_of_mem ht hd)
  have hgapChar : ∀ d ∈ gap, d ∉ special := fun d hd =>
    not_mem_special (p := isBlank) (by decide) (hblank d hd)
  have hfront : ∀ d ∈ t ++ x, d ∉ special := fun d hd =>
    (List.mem_append.mp hd).elim (htarget d) (hx d)
  have hbraces : ∀ s : Text, (∀ d ∈ s, d ∉ special) → s.BraceFree := by
    intro s hs
    refine braceFree_iff_not_mem.mpr ⟨fun hm => hs _ hm (by decide), fun hm => hs _ hm (by decide)⟩
  have hbody : BraceFree ('p' :: 'h' :: 'p' :: (gap ++ '$' :: (t ++ x ++ v))) := by
    simp only [braceFree_cons, braceFree_append]
    exact ⟨by decide, by decide, by decide, hbraces gap hgapChar, by decide,
      (braceFree_append t x).mp (hbraces _ hfront), hv.braceFree⟩
  have hstrip : Sigil.strip ('$' :: (t ++ x ++ v)) = t ++ x ++ Sigil.strip v := by
    have hplain : ∀ d ∈ t ++ x, d ≠ '$' ∧ d ≠ '\'' ∧ d ≠ '"' := by
      intro d hd
      have := hfront d hd
      simp only [special, List.mem_cons, not_or] at this
      exact ⟨this.1, this.2.1, this.2.2.1⟩
    obtain ⟨d, w, parts, rfl, hd, -, -⟩ := exists_of_isTarget ht
    rw [← Sigil.strip_append hplain]
    exact Sigil.strip_dollar hd _
  have hquestion : '?' ∉ t ++ x ++ Sigil.strip v := by
    rw [List.mem_append, not_or]
    exact ⟨fun hm => hfront _ hm (by decide), Tag.not_mem_strip hv.question⟩
  have hout : (Tag.statement ('$' :: (t ++ x ++ v))).rewrite =
      .ok (Host.statement (Tag.hostStatement (ofText (t ++ x ++ Sigil.strip v)))) := by
    rw [← hstrip]
    rfl
  rw [← List.append_assoc, ← List.append_assoc, Segment.ofStatement]
  have hread := read_statement hgap hblank hv (t ++ x)
  have hcompiled := compile_tag (c := c) fs hbody rfl rfl hread hout
  rwa [Tag.mergeStatements_statement (question_not_mem_hostStatement hquestion)] at hcompiled

-- What stands after the equals sign of a statement does not start with another one.
theorem head?_value_ne (hbehind : ∀ d ∈ behind, isBlank d = true) (hv : IsValue v) :
    (behind ++ Sigil.strip v).head? ≠ some '=' := by
  obtain ⟨d, rest, hstrip, hd⟩ := Sigil.exists_strip_eq_cons (P := (· ≠ '='))
    (fun e he hq => absurd (hq ▸ he) (by decide)) hv.ne_nil (fun e he hq => hv.start (hq ▸ he))
  cases behind with
  | nil => simpa [hstrip] using hd
  | cons e behind =>
      have he := hbehind e (by simp)
      intro hq
      obtain rfl : e = '=' := by simpa using hq
      exact absurd he (by decide)

theorem trimLeft_value (hbehind : ∀ d ∈ behind, isBlank d = true) (hv : IsValue v) :
    Text.trimLeft (behind ++ Sigil.strip v) = Sigil.strip v := by
  obtain ⟨d, rest, hstrip, hd⟩ := Sigil.exists_strip_eq_cons (P := (isBlank · = false))
    (fun e => isBlank_eq_false_of_isNameStart) hv.ne_nil hv.trimmed.start
  rw [trimLeft_append_blanks hbehind, hstrip, trimLeft_cons_of_not_blank hd]

-- White space around what stands between a target and a value.
theorem special_not_mem_around (hblank : ∀ d ∈ before ++ behind, isBlank d = true) {mark : Text}
    (hmark : ∀ d ∈ mark, d ∉ special) : ∀ d ∈ before ++ (mark ++ behind), d ∉ special := by
  have hgaps : ∀ d ∈ before ++ behind, d ∉ special := fun d hd =>
    not_mem_special (p := isBlank) (by decide) (hblank d hd)
  intro d hd
  simp only [List.mem_append] at hd hgaps
  rcases hd with hd | hd | hd
  · exact hgaps d (.inl hd)
  · exact hmark d hd
  · exact hgaps d (.inr hd)

theorem trimLeft_mark (hbefore : ∀ d ∈ before, isBlank d = true) {mark : Text} (hne : mark ≠ [])
    (hmark : ∀ d ∈ mark, isBlank d = false) (s : Text) :
    Text.trimLeft (before ++ (mark ++ s)) = mark ++ s := by
  obtain ⟨d, mark, rfl⟩ := List.exists_cons_of_ne_nil hne
  rw [trimLeft_append_blanks hbefore, List.cons_append, trimLeft_cons_of_not_blank (hmark d (by simp))]

-- A target ends where white space or one of some marks follows.
theorem isTargetChar_head? (hbefore : ∀ d ∈ before, isBlank d = true) {mark : Text} (hne : mark ≠ [])
    (hmark : ∀ d ∈ mark, isTargetChar d = false) (s : Text) :
    ∀ d ∈ (before ++ (mark ++ s)).head?, isTargetChar d = false := by
  intro d hd
  cases before with
  | nil =>
      obtain ⟨e, mark, rfl⟩ := List.exists_cons_of_ne_nil hne
      obtain rfl : e = d := by simpa using hd
      exact hmark e (by simp)
  | cons e before =>
      obtain rfl : e = d := by simpa using hd
      by_contra htarget
      have hlist : Tag.isListChar e = true := by
        simp only [isTargetChar, Bool.not_eq_false, Bool.or_eq_true] at htarget
        rcases htarget with h | h <;> simp [Tag.isListChar, h]
      have hblank := hbefore e (by simp)
      simp [Tag.isBlank_eq_false_of_isListChar hlist] at hblank

theorem compile_update (hgap : gap ≠ []) (hblank : ∀ d ∈ gap ++ (before ++ behind), isBlank d = true)
    (ht : isTarget t = true) (hv : IsValue v) {operator : Text} (hop : operator ∈ updating) :
    c.compile fs (Segment.ofStatement gap (t ++ (before ++ (operator ++ '=' :: (behind ++ v))))).spell =
      c.extended (Host.statement ("set ".toList ++ t ++ " = ".toList ++ t ++ ' ' ::
        hostOperator operator ++ " (".toList ++ Sigil.strip v ++ [')'])) := by
  simp only [List.forall_mem_append] at hblank
  obtain ⟨hgaps, hbefore, hbehind⟩ := hblank
  have hmark : operator ++ ['='] ≠ [] ∧
      ∀ d ∈ operator ++ ['='], isBlank d = false ∧ d ∉ special := by
    revert operator
    decide
  have hx := special_not_mem_around (List.forall_mem_append.mpr ⟨hbefore, hbehind⟩)
    fun d hd => (hmark.2 d hd).2
  have htrim : Text.trimLeft (before ++ (operator ++ ['='] ++ behind) ++ Sigil.strip v) =
      operator ++ '=' :: (behind ++ Sigil.strip v) := by
    simpa using trimLeft_mark hbefore hmark.1 (fun d hd => (hmark.2 d hd).1) (behind ++ Sigil.strip v)
  have hof : ofText (t ++ (before ++ (operator ++ ['='] ++ behind) ++ Sigil.strip v)) =
      .update t (hostOperator operator) (Sigil.strip v) := by
    rw [ofText_update ht (by simp) (htrim ▸ operator?_updating hop (head?_value_ne hbehind hv)),
      trimLeft_value hbehind hv]
  have hcompiled := compile_statement (c := c) fs hgap hgaps ht hx hv
  rw [hof, Tag.hostStatement.eq_def] at hcompiled
  simpa using hcompiled

-- What is no operator makes an assignment or none, whatever stands after it.
theorem compile_other (hgap : gap ≠ []) (hblank : ∀ d ∈ gap ++ (before ++ behind), isBlank d = true)
    (ht : isTarget t = true) (hv : IsValue v) {mark : Text} (hne : mark ≠ [])
    (hmark : ∀ d ∈ mark, isBlank d = false ∧ isTargetChar d = false ∧ d ∉ special)
    (hop : operator? (mark ++ (behind ++ Sigil.strip v)) = none) :
    c.compile fs (Segment.ofStatement gap (t ++ (before ++ (mark ++ (behind ++ v))))).spell =
      c.extended (Host.statement (Tag.hostStatement
        (if (afterEquals? (mark ++ (behind ++ Sigil.strip v))).isSome then
          .set (t ++ (before ++ (mark ++ (behind ++ Sigil.strip v))))
        else .perform (t ++ (before ++ (mark ++ (behind ++ Sigil.strip v))))))) := by
  simp only [List.forall_mem_append] at hblank
  obtain ⟨hgaps, hbefore, hbehind⟩ := hblank
  have hx := special_not_mem_around (List.forall_mem_append.mpr ⟨hbefore, hbehind⟩)
    fun d hd => (hmark d hd).2.2
  have htrim := trimLeft_mark hbefore hne (fun d hd => (hmark d hd).1) (behind ++ Sigil.strip v)
  have hend := isTargetChar_head? hbefore hne (fun d hd => (hmark d hd).2.1) (behind ++ Sigil.strip v)
  have hof := ofText_other ht hend (htrim.symm ▸ hop)
  rw [htrim] at hof
  have hcompiled := compile_statement (c := c) fs hgap hgaps ht hx hv
  simp only [List.append_assoc] at hcompiled
  rw [hcompiled, hof]

theorem compile_assignment (hgap : gap ≠ [])
    (hblank : ∀ d ∈ gap ++ (before ++ behind), isBlank d = true) (ht : isTarget t = true)
    (hv : IsValue v) :
    c.compile fs (Segment.ofStatement gap (t ++ (before ++ '=' :: (behind ++ v)))).spell =
      c.extended (Host.statement
        ("set ".toList ++ (t ++ (before ++ '=' :: (behind ++ Sigil.strip v))))) := by
  have hbehind : ∀ d ∈ behind, isBlank d = true := fun d hd => hblank d (by simp [hd])
  have hmark : ∀ d ∈ ['='], isBlank d = false ∧ isTargetChar d = false ∧ d ∉ special := by decide
  have h := compile_other (c := c) fs hgap hblank ht hv (by decide) hmark (operator?_equals _)
  rwa [List.singleton_append, List.singleton_append, afterEquals?_cons (head?_value_ne hbehind hv),
    Option.isSome_some, if_pos rfl, Tag.hostStatement.eq_def] at h

theorem compile_comparison (hgap : gap ≠ [])
    (hblank : ∀ d ∈ gap ++ (before ++ behind), isBlank d = true) (ht : isTarget t = true)
    (hv : IsValue v) {comparison : Text} (hcmp : comparison ∈ comparing) :
    c.compile fs (Segment.ofStatement gap (t ++ (before ++ (comparison ++ (behind ++ v))))).spell =
      c.extended (Host.statement
        ("do ".toList ++ (t ++ (before ++ (comparison ++ (behind ++ Sigil.strip v)))))) := by
  have hmark : comparison ≠ [] ∧
      ∀ d ∈ comparison, isBlank d = false ∧ isTargetChar d = false ∧ d ∉ special := by
    revert comparison
    decide
  obtain ⟨hop, hequals⟩ := operator?_comparing hcmp (behind ++ Sigil.strip v)
  have h := compile_other (c := c) fs hgap hblank ht hv hmark.1 hmark.2 hop
  rwa [hequals, if_neg (by simp), Tag.hostStatement.eq_def] at h

-- Statements on a variable are told apart by what stands between it and the value, whatever white
-- space is around that: an operator joined to an equals sign makes an update, an equals sign alone an
-- assignment, and a comparison neither.
theorem compile_statement_kinds (hgap : gap ≠ [])
    (hblank : ∀ d ∈ gap ++ (before ++ behind), isBlank d = true) (ht : isTarget t = true)
    (hv : IsValue v) :
    (∀ operator ∈ updating,
      c.compile fs (Segment.ofStatement gap
          (t ++ (before ++ (operator ++ '=' :: (behind ++ v))))).spell =
        c.extended (Host.statement ("set ".toList ++ t ++ " = ".toList ++ t ++ ' ' ::
          hostOperator operator ++ " (".toList ++ Sigil.strip v ++ [')']))) ∧
    c.compile fs (Segment.ofStatement gap (t ++ (before ++ '=' :: (behind ++ v)))).spell =
      c.extended (Host.statement
        ("set ".toList ++ (t ++ (before ++ '=' :: (behind ++ Sigil.strip v))))) ∧
    ∀ comparison ∈ comparing,
      c.compile fs (Segment.ofStatement gap
          (t ++ (before ++ (comparison ++ (behind ++ v))))).spell =
        c.extended (Host.statement
          ("do ".toList ++ (t ++ (before ++ (comparison ++ (behind ++ Sigil.strip v)))))) := by
  exact ⟨fun operator hop => compile_update fs hgap hblank ht hv hop,
    compile_assignment fs hgap hblank ht hv,
    fun comparison hcmp => compile_comparison fs hgap hblank ht hv hcmp⟩

-- A target with dots in it, an operator that is a dot, and a value with a quoted dollar sign.
theorem compile_statement_kinds_dotted :
    let c : Compiler := ⟨default, defaultMaxDepth, [], defaultRoom⟩
    let fs : FileSystem := .ofFiles fun _ => none
    c.compile fs "\x7bphp $a.b1 .=\n$x + '$y'\x7d".toList =
        .ok "<?py set a.b1 = a.b1 ~ (x + '$y') ?>".toList ∧
      c.compile fs "\x7bphp $a.b1 =\n$x + '$y'\x7d".toList =
        .ok "<?py set a.b1 =\nx + '$y' ?>".toList ∧
      c.compile fs "\x7bphp $a.b1 <=\n$x + '$y'\x7d".toList =
        .ok "<?py do a.b1 <=\nx + '$y' ?>".toList := by
  intro c fs
  have hv : IsValue "$x + '$y'".toList :=
    ⟨by decide, by decide, by decide, by decide, by decide, by decide⟩
  have hblank : ∀ d ∈ [' '] ++ ([' '] ++ ['\n']), isBlank d = true := by decide
  have ht : isTarget "a.b1".toList = true := by decide
  obtain ⟨hupdate, hassign, hcompare⟩ :=
    compile_statement_kinds (c := c) fs (by decide) hblank ht hv
  exact ⟨hupdate ['.'] (by decide), hassign, hcompare "<=".toList (by decide)⟩

end Compiler

end BraceTemplate
