import BraceTemplate.Proofs.Single.Statement

namespace BraceTemplate

open Text

def Piece.isHit {α : Type} : Piece α → Bool
  | .char _ => false
  | .hit _ => true

theorem occurs_eq_any {α : Type} (find : Recogniser α) (s : Text) :
    occurs find s = (Piece.cut find none s).any Piece.isHit := by
  rw [occurs, Piece.scan_eq_cut]
  congr 1

namespace Tag

section Gap

variable {s : Text}

-- What stands for a piece when statements are merged.
def mergedPiece : Piece Tag → Text
  | .char c => [c]
  | .hit _ => Host.statementClose ++ Host.statementOpen

theorem mergeFrom_eq_flatMap (before : Option Char) (s : Text) :
    mergeFrom before s = (Piece.cut merge? before s).flatMap mergedPiece := by
  rw [mergeFrom]
  congr 1

-- Each gap that is closed makes a text shorter.
theorem length_mergeFrom (before : Option Char) (s : Text) :
    (mergeFrom before s).length + ((Piece.cut merge? before s).any Piece.isHit).toNat ≤ s.length := by
  rw [mergeFrom_eq_flatMap]
  refine Piece.cut_induction consumes_merge?
    (motive := fun _ s pieces =>
      (pieces.flatMap mergedPiece).length + (pieces.any Piece.isHit).toNat ≤ s.length) ?_ ?_ ?_ before s
  · exact fun _ => Nat.le_refl _
  · intro before c rest _ ih
    simp only [List.flatMap_cons, List.length_append, List.any_cons, mergedPiece, Piece.isHit,
      Bool.false_or, List.length_cons, List.length_nil]
    omega
  · intro before s tag after hf ih
    obtain ⟨c, gap, spelling, rfl, -, -, -, -, hword⟩ := exists_of_merge? hf
    have hspelling : spelling.length = 4 := (takeWord_eq_some_iff.mp hword).2.length_eq.symm
    have hemitted : Host.statementClose.length + Host.statementOpen.length = 6 := rfl
    simp only [List.flatMap_cons, List.length_append, List.any_cons, mergedPiece, Piece.isHit,
      Bool.true_or, Bool.toNat_true, List.length_cons, hspelling]
    omega

theorem mergeStatements_eq_self_iff : mergeStatements s = s ↔ ¬ s.HasGap := by
  rw [← occurs_merge?_eq_false_iff]
  refine ⟨fun h => ?_, mergeStatements_eq_self⟩
  have hshorter := length_mergeFrom none s
  rw [← mergeStatements, h, ← occurs_eq_any] at hshorter
  exact Bool.toNat_eq_zero.mp (Nat.le_zero.mp (Nat.le_of_add_le_add_left hshorter))

-- The parentheses around an expression keep what is merged in it apart from the rest.
theorem mergeStatements_escaped (x : Text) :
    mergeStatements (Host.escaped x) = Host.escaped (mergeStatements x) := by
  have hspelled : ∀ x, Host.escaped x = "<?= ".toList ++ '(' :: (x ++ ')' :: " | e =?>".toList) :=
    fun x => by simp [Host.escaped, Host.output, Host.outputOpen, Host.outputClose]
  have hends : mergeFrom none "<?= ".toList = "<?= ".toList ∧
      mergeStatements " | e =?>".toList = " | e =?>".toList := by decide
  rw [hspelled, hspelled, mergeStatements, mergeFrom_append_cons (by decide) (by decide), hends.1,
    mergeStatements, mergeFrom_append_cons (by decide) (by decide), hends.2, mergeStatements]

end Gap

section Dotted

variable {s : Text}

-- A variable and at least one part behind it, each after a dot. A part is any text without dots,
-- quotes, braces and white space.
def Dotted (s : Text) : Prop :=
  ∃ head segments, segments ≠ [] ∧ s = '$' :: join ['.'] (head :: segments) ∧
    ∀ part ∈ head :: segments, part ≠ [] ∧ ∀ c ∈ part, isPathChar c = true

theorem readPath_eq_path {head : Text} {segments : List Text} (hne : segments ≠ [])
    (hparts : ∀ part ∈ head :: segments, part ≠ [] ∧ ∀ c ∈ part, isPathChar c = true) :
    readPath ('$' :: join ['.'] (head :: segments)) = some (.path ('$' :: head) segments) := by
  have hchars : ∀ c ∈ join ['.'] (head :: segments), isPathChar c = true ∨ c = '.' := by
    intro c hc
    rcases mem_join hc with h | ⟨part, hm, h⟩
    · exact .inr h
    · exact .inl ((hparts part hm).2 c h)
  have hdot : ∀ part ∈ head :: segments, '.' ∉ part := fun part hm h =>
    absurd ((hparts part hm).2 _ h) (by decide)
  exact readPath_eq_some_iff.mpr ⟨_, head, segments, rfl, hchars, split_join (by simp) hdot, hne,
    fun part hm => (hparts part hm).1, rfl⟩

theorem readPath_eq_none_iff : readPath s = none ↔ ¬ Dotted s := by
  constructor
  · rintro h ⟨head, segments, hne, rfl, hparts⟩
    rw [readPath_eq_path hne hparts] at h
    cases h
  · intro h
    by_contra hread
    obtain ⟨tag, htag⟩ := Option.ne_none_iff_exists'.mp hread
    obtain ⟨parts, head, segments, rfl, hchars, hsplit, hne, hfull, -⟩ := readPath_eq_some_iff.mp htag
    refine h ⟨head, segments, hne, by rw [← hsplit, join_split], ?_⟩
    refine fun part hm => ⟨hfull part hm, fun c hc => ?_⟩
    have hpart : c ∈ parts ∧ c ≠ '.' := by
      rw [← hsplit] at hm
      exact ⟨mem_of_mem_split hm hc, fun hdot => not_mem_of_mem_split hm (hdot ▸ hc)⟩
    exact (hchars c hpart.1).resolve_right hpart.2

-- The subscripts of a path end with a bracket.
theorem getLast?_subscripts {segments : List Text} {keys : Text} (hne : segments ≠ [])
    (h : subscripts segments = .ok keys) : keys.getLast? = some ']' := by
  induction segments generalizing keys with
  | nil => exact absurd rfl hne
  | cons segment segments ih =>
      obtain ⟨first, hfirst, h⟩ := Except.bind_eq_ok.mp h
      obtain ⟨others, hothers, h⟩ := Except.bind_eq_ok.mp h
      obtain rfl : first ++ others = keys := by simpa using h
      have hlast : first.getLast? = some ']' := by
        unfold subscript at hfirst
        split at hfirst
        · split at hfirst
          · obtain rfl := Except.ok.inj hfirst
            simp [List.getLast?_cons]
          · cases hfirst
        · obtain rfl := Except.ok.inj hfirst
          simp [List.getLast?_cons]
      cases segments with
      | nil =>
          obtain rfl : [] = others := Except.ok.inj hothers
          rwa [List.append_nil]
      | cons next segments => rw [List.getLast?_append, ih (by simp) hothers, Option.some_or]

-- A bracket and a parenthesis in the same place tell the output of a path from any other.
theorem mergeStatements_path_ne {head keys : Text} (hkeys : keys.getLast? = some ']') (x : Text) :
    mergeStatements (Host.output ('(' :: head ++ ')' :: keys ++ " | e".toList)) ≠ Host.escaped x := by
  obtain ⟨front, rfl⟩ := List.getLast?_eq_some_iff.mp hkeys
  have hpath : Host.output ('(' :: head ++ ')' :: (front ++ [']']) ++ " | e".toList) =
      "<?= (".toList ++ head ++ ')' :: front ++ ']' :: " | e =?>".toList := by
    simp [Host.output, Host.outputOpen, Host.outputClose]
  have hescaped : Host.escaped x = "<?= (".toList ++ x ++ ')' :: " | e =?>".toList := by
    simp [Host.escaped, Host.output, Host.outputOpen, Host.outputClose]
  have hend : mergeStatements " | e =?>".toList = " | e =?>".toList := by decide
  rw [hpath, hescaped, mergeStatements, mergeFrom_append_cons (by decide) (by decide), hend]
  intro h
  rw [List.append_cons _ ']', List.append_cons _ ')' " | e =?>".toList] at h
  have hlasts := congrArg List.getLast? (List.append_cancel_right h)
  rw [List.getLast?_concat, List.getLast?_concat] at hlasts
  cases hlasts

end Dotted

end Tag

namespace Compiler

variable {c : Compiler} (fs : FileSystem) {E : Text}

theorem compile_short (hb : E.BraceFree) (ht : E.Trimmed) (hsemi : E.getLast? ≠ some ';') :
    c.compile fs (Segment.group (':' :: E)).spell =
      c.extended (Host.escaped (Tag.mergeStatements (Sigil.strip E))) := by
  have hread : Tag.read (':' :: E) = some (.interpolation (Text.trim (trimStatementEnd E))) := rfl
  rw [trimStatementEnd_eq_self ht.stop hsemi, ht.trim] at hread
  have hbody : BraceFree (':' :: E) := (braceFree_cons _ _).mpr ⟨by decide, hb⟩
  rw [compile_tag fs hbody rfl rfl hread rfl, Tag.mergeStatements_escaped]

theorem compile_interpolation (hstart : E.head? = some '$') (hb : E.BraceFree) (ht : E.Trimmed)
    (hpath : ¬ Tag.Dotted E) :
    c.compile fs (Segment.group E).spell =
      c.extended (Host.escaped (Tag.mergeStatements (Sigil.strip E))) := by
  have hread : Tag.read E = some (.interpolation E) := by
    obtain ⟨s, rfl⟩ := List.head?_eq_some_iff.mp hstart
    change (Tag.readPath ('$' :: s)).or (some (.interpolation (Text.trim ('$' :: s)))) = _
    rw [Tag.readPath_eq_none_iff.mpr hpath, Option.none_or, ht.trim]
  obtain ⟨s, rfl⟩ := List.head?_eq_some_iff.mp hstart
  rw [compile_tag fs hb rfl rfl hread rfl, Tag.mergeStatements_escaped]

-- A path is put out as no expression is, if it is put out at all.
theorem compile_dotted_ne (hc : c.extensions = []) (hb : E.BraceFree) (hpath : Tag.Dotted E) (x : Text) :
    c.compile fs (Segment.group E).spell ≠ .ok (Host.escaped x) := by
  obtain ⟨head, segments, hne, rfl, hparts⟩ := hpath
  have hread : Tag.read ('$' :: join ['.'] (head :: segments)) = some (.path ('$' :: head) segments) := by
    change (Tag.readPath ('$' :: join ['.'] (head :: segments))).or _ = _
    rw [Tag.readPath_eq_path hne hparts, Option.some_or]
  intro h
  rw [compile_group fs hb rfl rfl, hread, hostOf] at h
  cases hout : (Tag.path ('$' :: head) segments).rewrite with
  | error e =>
      rw [hout] at h
      cases h
  | ok out =>
      obtain ⟨keys, hkeys, hkeyed⟩ := Except.bind_eq_ok.mp hout
      obtain rfl := Except.ok.inj hkeyed
      rw [hout] at h
      replace h := (extended_eq hc _).symm.trans h
      exact Tag.mergeStatements_path_ne (Tag.getLast?_subscripts hne hkeys) x (Except.ok.inj h)

-- The two forms of an interpolation: the short one puts out the expression, with the gaps in it closed,
-- and so does the other, unless the text could be a dotted path. Then it comes to something else.
theorem compile_interpolation_forms (hstart : E.head? = some '$') (hb : E.BraceFree) (ht : E.Trimmed)
    (hsemi : E.getLast? ≠ some ';') :
    c.compile fs (Segment.group (':' :: E)).spell =
        c.extended (Host.escaped (Tag.mergeStatements (Sigil.strip E))) ∧
      (Tag.mergeStatements (Sigil.strip E) = Sigil.strip E ↔ ¬ (Sigil.strip E).HasGap) ∧
      (¬ Tag.Dotted E →
        c.compile fs (Segment.group E).spell = c.compile fs (Segment.group (':' :: E)).spell) ∧
      (c.extensions = [] → Tag.Dotted E →
        c.compile fs (Segment.group E).spell ≠ c.compile fs (Segment.group (':' :: E)).spell) := by
  have hshort := compile_short (c := c) fs hb ht hsemi
  refine ⟨hshort, Tag.mergeStatements_eq_self_iff, fun hpath => ?_, fun hc hpath => ?_⟩
  · rw [hshort, compile_interpolation fs hstart hb ht hpath]
  · rw [hshort, extended_eq hc]
    exact compile_dotted_ne fs hc hb hpath _

-- A number and a text with a dot are no parts of a path where white space stands between them.
theorem compile_interpolation_forms_sum :
    let c : Compiler := ⟨default, defaultMaxDepth, [], defaultRoom⟩
    let fs : FileSystem := .ofFiles fun _ => none
    c.compile fs "\x7b$a + 1.5 ~ '$b'\x7d".toList = c.compile fs "\x7b:$a + 1.5 ~ '$b'\x7d".toList ∧
      c.compile fs "\x7b:$a + 1.5 ~ '$b'\x7d".toList = .ok "<?= (a + 1.5 ~ '$b') | e =?>".toList := by
  intro c fs
  have hpath : ¬ Tag.Dotted "$a + 1.5 ~ '$b'".toList := Tag.readPath_eq_none_iff.mp (by decide)
  obtain ⟨hshort, -, hforms, -⟩ := compile_interpolation_forms (c := c) fs
    (E := "$a + 1.5 ~ '$b'".toList) (by decide) (by decide) (by decide) (by decide)
  exact ⟨hforms hpath, hshort⟩

-- A path of a name, and of names and numbers behind it.
def isPlainPath : Text → Bool
  | '$' :: s =>
    match Text.split '.' s with
    | head :: segments =>
      Statement.isIdentifier head && !segments.isEmpty &&
        segments.all fun segment =>
          Statement.isIdentifier segment || (!segment.isEmpty && segment.all Char.isDigit)
    | [] => false
  | _ => false

-- A sum that is no path is read as one, and a gap is closed in the middle of a string.
theorem compile_interpolation_departs :
    let c : Compiler := ⟨default, defaultMaxDepth, [], defaultRoom⟩
    let fs : FileSystem := .ofFiles fun _ => none
    (isPlainPath "$a+1.5".toList = false ∧ BraceFree "$a+1.5".toList ∧
        c.compile fs "\x7b:$a+1.5\x7d".toList = .ok (Host.escaped (Sigil.strip "$a+1.5".toList)) ∧
        c.compile fs "\x7b$a+1.5\x7d".toList = .ok "<?= (a+1)[5] | e =?>".toList ∧
        c.compile fs "\x7b$a+1.5\x7d".toList ≠ c.compile fs "\x7b:$a+1.5\x7d".toList) ∧
      isPlainPath "$a ~ '?> <?py'".toList = false ∧ BraceFree "$a ~ '?> <?py'".toList ∧
        c.compile fs "\x7b:$a ~ '?> <?py'\x7d".toList = .ok "<?= (a ~ '?><?py') | e =?>".toList ∧
        c.compile fs "\x7b:$a ~ '?> <?py'\x7d".toList ≠
          .ok (Host.escaped (Sigil.strip "$a ~ '?> <?py'".toList)) := by
  decide +kernel

end Compiler

end BraceTemplate
