import BraceTemplate.Proofs.Flat.Readers
import BraceTemplate.Tag.Rewrite

namespace BraceTemplate

open Text

theorem Except.bind_eq_ok {ε α β : Type} {x : Except ε α} {f : α → Except ε β} {b : β} :
    x >>= f = .ok b ↔ ∃ a, x = .ok a ∧ f a = .ok b := by
  cases x with
  | error e => simp [bind, Except.bind]
  | ok a => simp [bind, Except.bind]

theorem Text.mem_of_mem_dropTail {p : Char → Bool} {s : Text} {c : Char} (h : c ∈ dropTail p s) :
    c ∈ s := by
  induction s with
  | nil => simp [dropTail] at h
  | cons d s ih =>
      unfold dropTail at h
      split at h
      · split at h <;> simp_all
      · next kept _ =>
        rcases List.mem_cons.mp h with rfl | h
        · simp
        · exact List.mem_cons_of_mem _ (ih (by simpa using h))

theorem Text.mem_of_mem_trimLeft {s : Text} {c : Char} (h : c ∈ Text.trimLeft s) : c ∈ s :=
  (List.dropWhile_suffix isBlank).subset h

theorem Text.mem_of_mem_trim {s : Text} {c : Char} (h : c ∈ Text.trim s) : c ∈ s :=
  Text.mem_of_mem_trimLeft (Text.mem_of_mem_dropTail h)

theorem Text.mem_of_mem_trimStatementEnd {s : Text} {c : Char} (h : c ∈ Text.trimStatementEnd s) :
    c ∈ s := by
  unfold Text.trimStatementEnd at h
  simp only at h
  split at h
  · exact Text.mem_of_mem_dropTail (List.dropLast_subset _ (Text.mem_of_mem_dropTail h))
  · exact Text.mem_of_mem_dropTail h

theorem Text.mem_of_mem_split {sep c : Char} {s piece : Text} (hp : piece ∈ Text.split sep s)
    (hc : c ∈ piece) : c ∈ s := by
  induction s generalizing piece with
  | nil => simp_all [Text.split]
  | cons d s ih =>
      simp only [Text.split] at hp
      split at hp
      · rcases List.mem_cons.mp hp with rfl | hp
        · simp at hc
        · exact List.mem_cons_of_mem _ (ih hp hc)
      · split at hp
        · simp_all
        · next first pieces he =>
          rcases List.mem_cons.mp hp with rfl | hp
          · rcases List.mem_cons.mp hc with rfl | hc
            · simp
            · exact List.mem_cons_of_mem _ (ih (he ▸ List.mem_cons_self) hc)
          · exact List.mem_cons_of_mem _ (ih (he ▸ List.mem_cons_of_mem _ hp) hc)

theorem Text.mem_of_cutAtText {mark s before after : Text}
    (h : Text.cutAtText mark s = some (before, after)) :
    (∀ c ∈ before, c ∈ s) ∧ ∀ c ∈ after, c ∈ s := by
  have hafter : ∀ (lead t rest : Text), Text.after? lead t = some rest → ∀ c ∈ rest, c ∈ t := by
    intro lead
    induction lead with
    | nil => simp [Text.after?]
    | cons p lead ih =>
        intro t rest ht
        cases t with
        | nil => simp [Text.after?] at ht
        | cons d t =>
            simp only [Text.after?] at ht
            split at ht
            · exact fun c hc => List.mem_cons_of_mem _ (ih t rest ht c hc)
            · simp at ht
  induction s generalizing before with
  | nil =>
      simp only [Text.cutAtText] at h
      split at h <;> simp_all
  | cons d s ih =>
      simp only [Text.cutAtText] at h
      split at h
      · next tail ht =>
        simp only [Option.some.injEq, Prod.mk.injEq] at h
        obtain ⟨rfl, rfl⟩ := h
        exact ⟨by simp, hafter _ _ _ ht⟩
      · simp only [Option.map_eq_some_iff, Prod.mk.injEq, Prod.exists] at h
        obtain ⟨b, a, hcut, rfl, rfl⟩ := h
        obtain ⟨hb, ha⟩ := ih hcut
        refine ⟨fun c hc => ?_, fun c hc => List.mem_cons_of_mem _ (ha c hc)⟩
        rcases List.mem_cons.mp hc with rfl | hc
        · simp
        · exact List.mem_cons_of_mem _ (hb c hc)

theorem Sigil.closeLiteral_append {quote : Char} {s body tail : Text}
    (h : closeLiteral quote s = some (body, tail)) : body ++ tail = s := by
  induction s using closeLiteral.induct quote generalizing body with
  | case1 => simp [closeLiteral] at h
  | case2 => simp_all [closeLiteral]
  | case3 hq => simp [closeLiteral, hq] at h
  | case4 rest => simp [closeLiteral] at h
  | case5 d rest hd ih =>
      simp only [closeLiteral, if_neg hd, Option.map_eq_some_iff, Prod.mk.injEq, Prod.exists] at h
      obtain ⟨b, t, hcl, rfl, rfl⟩ := h
      simp [ih hcl]
  | case6 rest hne hne' =>
      simp only [closeLiteral, if_true, Option.some.injEq, Prod.mk.injEq] at h
      obtain ⟨rfl, rfl⟩ := h
      rfl
  | case7 d rest hne hne' hd ih =>
      simp only [closeLiteral, if_neg hd, Option.map_eq_some_iff, Prod.mk.injEq, Prod.exists] at h
      obtain ⟨b, t, hcl, rfl, rfl⟩ := h
      simp [ih hcl]

theorem Sigil.find_sublist {before : Option Char} {s kept after : Text}
    (h : Sigil.find before s = some (kept, after)) : (kept ++ after).Sublist s := by
  have hquoted : ∀ (c : Char) (rest : Text),
      (if c = '\'' || c = '"' then
        (closeLiteral c rest).map fun cut => (c :: cut.1, cut.2)
      else none) = some (kept, after) → (kept ++ after).Sublist (c :: rest) := by
    intro c rest h
    split at h
    · simp only [Option.map_eq_some_iff, Prod.mk.injEq, Prod.exists] at h
      obtain ⟨body, tail, hcl, rfl, rfl⟩ := h
      simp [← closeLiteral_append hcl]
    · simp at h
  unfold Sigil.find at h
  split at h
  · split at h
    · simp only [Option.some.injEq, Prod.mk.injEq] at h
      obtain ⟨rfl, rfl⟩ := h
      simp
    · simp at h
  · exact hquoted _ _ h
  · simp at h

-- Stripping only ever drops characters.
theorem Sigil.strip_sublist (s : Text) : (Sigil.strip s).Sublist s := by
  have hscan : ∀ f : Piece Text → Text, (∀ c, f (.char c) = [c]) → (∀ kept, f (.hit kept) = kept) →
      ∀ (fuel : Nat) (before : Option Char) (s : Text),
        ((Piece.scanFrom Sigil.find fuel before s).flatMap f).Sublist s := by
    intro f hchar hhit fuel
    induction fuel with
    | zero => intro before s; cases s <;> simp [Piece.scanFrom]
    | succ fuel ih =>
        intro before s
        cases s with
        | nil => simp [Piece.scanFrom]
        | cons c rest =>
            simp only [Piece.scanFrom]
            split
            · next kept after hf =>
              have h := (ih none after).append_left kept
              simpa [hhit] using h.trans (find_sublist hf)
            · simpa [hchar] using ih (some c) rest
  exact hscan _ (fun _ => rfl) (fun _ => rfl) s.length none s

theorem LoopClause.mem_of_afterAs? {s target : Text} (h : afterAs? s = some target) :
    ∀ c ∈ target, c ∈ s := by
  unfold afterAs? at h
  split at h
  · simp at h
  · split at h
    · simp only [Option.bind_eq_bind, Option.bind_eq_some_iff, Prod.exists] at h
      obtain ⟨spelling, rest, hword, h⟩ := h
      have he := (takeWord_eq_some hword).1
      split at h
      · simp at h
      · split at h
        · simp only [Option.some.injEq] at h
          subst h
          intro c hc
          apply Text.mem_of_mem_trimLeft
          rw [he]
          exact List.mem_append_right _ (Text.mem_of_mem_trimLeft hc)
        · simp at h
    · simp at h

theorem LoopClause.mem_of_cutAtAs {s before target : Text}
    (h : cutAtAs s = some (before, target)) :
    (∀ c ∈ before, c ∈ s) ∧ ∀ c ∈ target, c ∈ s := by
  fun_induction cutAtAs s generalizing before with
  | case1 => simp at h
  | case2 d s found ha =>
      simp only [Option.some.injEq, Prod.mk.injEq] at h
      obtain ⟨rfl, rfl⟩ := h
      exact ⟨by simp, mem_of_afterAs? ha⟩
  | case3 d s ha ih =>
      simp only [Option.map_eq_some_iff, Prod.mk.injEq, Prod.exists] at h
      obtain ⟨b, t, hcut, rfl, rfl⟩ := h
      obtain ⟨hb, ht⟩ := ih hcut
      exact ⟨by grind, fun c hc => List.mem_cons_of_mem _ (ht c hc)⟩

def LoopClause.texts : LoopClause → List Text
  | .plain clause => [clause]
  | .values iterable target => [iterable, target]
  | .pairs iterable key value => [iterable, key, value]

theorem LoopClause.mem_of_ofText {s t : Text} (ht : t ∈ (ofText s).texts) :
    ∀ c ∈ t, c ∈ s := by
  have hstrip : ∀ (u : Text) (c : Char), c ∈ Sigil.strip u → c ∈ u :=
    fun u c hc => (Sigil.strip_sublist u).subset hc
  unfold ofText at ht
  split at ht
  · simp only [texts, List.mem_singleton] at ht
    exact fun c hc => hstrip s c (ht ▸ hc)
  · next iterable target hcut =>
    obtain ⟨hi, hn⟩ := mem_of_cutAtAs hcut
    have hitems : ∀ c ∈ Sigil.strip (Text.trim iterable), c ∈ s :=
      fun c hc => hi c (Text.mem_of_mem_trim (hstrip _ c hc))
    have hnames : ∀ c ∈ Sigil.strip (Text.trim target), c ∈ s :=
      fun c hc => hn c (Text.mem_of_mem_trim (hstrip _ c hc))
    cases hpair : Text.cutAtText "=>".toList (Sigil.strip (Text.trim target)) with
    | none =>
        simp only [hpair, texts, List.mem_cons, List.not_mem_nil, or_false] at ht
        rcases ht with rfl | rfl
        · exact hitems
        · exact hnames
    | some found =>
        obtain ⟨key, value⟩ := found
        obtain ⟨hk, hv⟩ := Text.mem_of_cutAtText hpair
        simp only [hpair, texts, List.mem_cons, List.not_mem_nil, or_false] at ht
        rcases ht with rfl | rfl | rfl
        · exact hitems
        · exact fun c hc => hnames c (hk c (Text.mem_of_mem_trim hc))
        · exact fun c hc => hnames c (hv c (Text.mem_of_mem_trim hc))

namespace Statement

theorem mem_of_afterEquals? {s rest : Text} (h : afterEquals? s = some rest) :
    ∀ c ∈ rest, c ∈ s := by
  unfold afterEquals? at h
  split at h
  · split at h
    · simp at h
    · simp_all
  · simp at h

theorem mem_of_operator? {s operator value : Text} (h : operator? s = some (operator, value)) :
    (∀ c ∈ operator, c ∈ s) ∧ ∀ c ∈ value, c ∈ s := by
  unfold operator? at h
  split at h
  · simp only [Option.map_eq_some_iff, Prod.mk.injEq] at h
    obtain ⟨rest, he, rfl, rfl⟩ := h
    exact ⟨by simp, fun c hc => by simp [mem_of_afterEquals? he c hc]⟩
  · simp only [Option.map_eq_some_iff, Prod.mk.injEq] at h
    obtain ⟨rest, he, rfl, rfl⟩ := h
    exact ⟨by simp, fun c hc => by simp [mem_of_afterEquals? he c hc]⟩
  · split at h
    · simp only [Option.map_eq_some_iff, Prod.mk.injEq] at h
      obtain ⟨rest, he, rfl, rfl⟩ := h
      exact ⟨by simp, fun c hc => by simp [mem_of_afterEquals? he c hc]⟩
    · simp at h
  · simp at h

theorem mem_of_cutAtOperator {s target operator value : Text}
    (h : cutAtOperator s = some (target, operator, value)) :
    (∀ c ∈ target, c ∈ s) ∧ (∀ c ∈ operator, c ∈ s) ∧ ∀ c ∈ value, c ∈ s := by
  fun_induction cutAtOperator s generalizing target with
  | case1 => simp at h
  | case2 d s op v ho =>
      simp only [Option.some.injEq, Prod.mk.injEq] at h
      obtain ⟨rfl, rfl, rfl⟩ := h
      obtain ⟨hop, hv⟩ := mem_of_operator? ho
      exact ⟨by simp, fun c hc => Text.mem_of_mem_trimLeft (hop c hc),
        fun c hc => Text.mem_of_mem_trimLeft (hv c (Text.mem_of_mem_trimLeft hc))⟩
  | case3 d s ho hd ih =>
      simp only [Option.map_eq_some_iff, Prod.mk.injEq, Prod.exists] at h
      obtain ⟨t, op, v, hcut, rfl, rfl, rfl⟩ := h
      obtain ⟨ht, hop, hv⟩ := ih hcut
      exact ⟨by grind, fun c hc => List.mem_cons_of_mem _ (hop c hc),
        fun c hc => List.mem_cons_of_mem _ (hv c hc)⟩
  | case4 => simp at h

def texts : Statement → List Text
  | .update target operator value => [target, operator, value]
  | .set body => [body]
  | .perform body => [body]

-- A tilde may stand for the operator that was written.
theorem mem_of_ofText {s t : Text} (ht : t ∈ (ofText s).texts) :
    ∀ c ∈ t, c ∈ s ∨ c = '~' := by
  have hother : t ∈ (if isAssignment s then Statement.set s else .perform s).texts →
      ∀ c ∈ t, c ∈ s ∨ c = '~' := by
    split <;> simp +contextual [texts]
  unfold ofText at ht
  cases s with
  | nil => simpa using hother ht
  | cons d s =>
      by_cases hd : Sigil.isNameStart d
      · cases hcut : cutAtOperator s with
        | none => exact hother (by simpa [hd, hcut] using ht)
        | some found =>
            obtain ⟨target, operator, value⟩ := found
            obtain ⟨htarget, hop, hv⟩ := mem_of_cutAtOperator hcut
            simp only [hd, if_true, hcut, Option.map_some, Option.getD_some, texts,
              List.mem_cons, List.not_mem_nil, or_false] at ht
            rcases ht with rfl | rfl | rfl
            · grind
            · unfold hostOperator
              split <;> grind
            · grind
      · exact hother (by simpa [hd] using ht)

end Statement

-- The texts of a tag that were taken from the body of its group.
def Tag.texts : Tag → List Text
  | .opening spelling subject => [spelling, subject]
  | .define signature => [signature]
  | .statement body => [body]
  | .dump expr => [expr]
  | .print expr => [expr]
  | .echo expr => [expr]
  | .case expr => [expr]
  | .closing spelling => [spelling]
  | .elseif expr => [expr]
  | .insertion list => [list]
  | .path head segments => head :: segments
  | .interpolation expr => [expr]
  | _ => []

theorem Quoted.braceFree_hexFixed (width n : Nat) : BraceFree (hexFixed width n) := by
  have hdigit : ∀ k : Nat, isBrace (Md5.hexDigit k) = false := by
    intro k
    by_cases hk : k < 16
    · revert k; decide
    · have h : Md5.hexDigit k = '0' := by
        have hlen : "0123456789abcdef".toList.length ≤ k := Nat.le_of_not_lt hk
        rw [Md5.hexDigit, List.getD_eq_getElem?_getD, List.getElem?_eq_none hlen, Option.getD_none]
      rw [h]; decide
  induction width generalizing n with
  | zero => exact braceFree_nil
  | succ width ih => simp [hexFixed, ih, hdigit]

theorem Quoted.braceFree_codeEscape (n : Nat) : BraceFree (codeEscape n) := by
  unfold codeEscape
  split_ifs <;> simp only [braceFree_cons, braceFree_hexFixed, and_true] <;> decide

theorem braceFree_natText (n : Nat) : BraceFree (natText n) := by
  intro c hc
  have hd : c.isDigit := Nat.isDigit_of_mem_toDigits (by decide) (by decide) hc
  rw [isBrace_eq_false_iff]
  constructor <;> rintro rfl <;> exact absurd hd (by decide)

-- A brace of either kind in what a tag becomes was taken from the body of its group.
section Braces

variable {b : Char} (hb : isBrace b = true)

include hb

theorem not_mem_of_braceFree {s : Text} (hs : BraceFree s) : b ∉ s := fun h => by
  rw [hs b h] at hb
  cases hb

namespace Quoted

theorem not_mem_escapeChar {quote c : Char} (hc : b ≠ c) : b ∉ escapeChar quote c := by
  unfold escapeChar
  split_ifs
  · simp only [List.mem_cons, List.not_mem_nil, or_false, not_or]
    refine ⟨?_, hc⟩
    rintro rfl
    cases hb
  · exact not_mem_of_braceFree hb (by decide)
  · exact not_mem_of_braceFree hb (by decide)
  · exact not_mem_of_braceFree hb (by decide)
  · simpa using hc
  · exact not_mem_of_braceFree hb (braceFree_codeEscape _)

theorem not_mem_text {s : Text} (hs : b ∉ s) : b ∉ text s := by
  have hq : b ≠ quoteFor s := by
    rintro rfl
    unfold quoteFor at hb
    split at hb <;> cases hb
  have hbody : b ∉ s.flatMap (escapeChar (quoteFor s)) := by
    simp only [List.mem_flatMap, not_exists, not_and]
    exact fun c hc => not_mem_escapeChar hb fun he => hs (he ▸ hc)
  simp [text, hq, hbody]

end Quoted

namespace Tag

omit hb in
theorem not_mem_strip {s : Text} (hs : b ∉ s) : b ∉ Sigil.strip s :=
  fun h => hs ((Sigil.strip_sublist s).subset h)

theorem not_mem_statement {body : Text} (h : b ∉ body) : b ∉ Host.statement body := by
  simp only [Host.statement, List.mem_append, List.mem_cons, not_or, h]
  rcases isBrace_iff.mp hb with rfl | rfl <;> decide

theorem not_mem_output {expr : Text} (h : b ∉ expr) : b ∉ Host.output expr := by
  simp only [Host.output, List.mem_append, List.mem_cons, not_or, h]
  rcases isBrace_iff.mp hb with rfl | rfl <;> decide

theorem not_mem_loopHead {clause : LoopClause} (h : ∀ s ∈ clause.texts, b ∉ s) :
    b ∉ loopHead clause := by
  cases clause <;> simp_all only [loopHead, LoopClause.texts, List.mem_cons, List.not_mem_nil,
    or_false, forall_eq_or_imp, forall_eq, List.mem_append, not_or] <;>
    rcases isBrace_iff.mp hb with rfl | rfl <;> decide

theorem not_mem_openBlock (keyword : Text) {subject : Text} (hs : b ∉ subject) :
    b ∉ openBlock keyword subject := by
  have hclause : ∀ s ∈ (LoopClause.ofText subject).texts, b ∉ s :=
    fun s hm h => hs (LoopClause.mem_of_ofText hm b h)
  have hhead := not_mem_loopHead hb hclause
  have hstrip := not_mem_strip hs
  unfold openBlock
  split_ifs <;> apply not_mem_statement hb <;>
    simp only [List.mem_append, not_or, hhead, hstrip, not_false_eq_true, and_true] <;>
    rcases isBrace_iff.mp hb with rfl | rfl <;> decide

theorem not_mem_hostStatement {statement : Statement} (h : ∀ s ∈ statement.texts, b ∉ s) :
    b ∉ hostStatement statement := by
  rw [hostStatement.eq_def]
  cases statement with
  | update target operator value =>
      simp only [Statement.texts, List.mem_cons, List.not_mem_nil, or_false, forall_eq_or_imp,
        forall_eq] at h
      simp only [List.mem_append, List.mem_cons, not_or, h]
      rcases isBrace_iff.mp hb with rfl | rfl <;> decide
  | set body =>
      simp only [List.mem_append, not_or, h body (by simp [Statement.texts])]
      rcases isBrace_iff.mp hb with rfl | rfl <;> decide
  | perform body =>
      simp only [List.mem_append, not_or, h body (by simp [Statement.texts])]
      rcases isBrace_iff.mp hb with rfl | rfl <;> decide

theorem not_mem_preformatted {expr filter : Text} (he : b ∉ expr) (hf : b ∉ filter) :
    b ∉ preformatted expr filter := by
  have ho : b ∉ Host.output ('(' :: expr ++ ") | ".toList ++ filter ++ " | e".toList) := by
    apply not_mem_output hb
    simp only [List.mem_append, List.cons_append, List.mem_cons, not_or, he, hf]
    rcases isBrace_iff.mp hb with rfl | rfl <;> decide
  simp only [preformatted, List.mem_append, not_or, ho]
  rcases isBrace_iff.mp hb with rfl | rfl <;> decide

theorem not_mem_subscript {segment out : Text} (hs : b ∉ segment)
    (he : subscript segment = .ok out) : b ∉ out := by
  unfold subscript at he
  split at he
  · split at he
    · next n _ =>
      have hn := not_mem_of_braceFree hb (braceFree_natText n)
      simp only [Except.ok.injEq] at he
      simp only [← he, List.cons_append, List.mem_cons, List.mem_append, not_or, hn]
      rcases isBrace_iff.mp hb with rfl | rfl <;> decide
    · simp at he
  · have hq := Quoted.not_mem_text hb hs
    simp only [Except.ok.injEq] at he
    simp only [← he, List.cons_append, List.mem_cons, List.mem_append, not_or, hq]
    rcases isBrace_iff.mp hb with rfl | rfl <;> decide

theorem not_mem_subscripts {segments : List Text} {out : Text}
    (h : ∀ s ∈ segments, b ∉ s) (he : subscripts segments = .ok out) : b ∉ out := by
  induction segments generalizing out with
  | nil =>
      simp only [subscripts, Except.ok.injEq] at he
      exact he ▸ List.not_mem_nil
  | cons segment segments ih =>
      obtain ⟨first, hfirst, he⟩ := Except.bind_eq_ok.mp he
      obtain ⟨others, hothers, he⟩ := Except.bind_eq_ok.mp he
      simp only [Except.ok.injEq] at he
      rw [← he, List.mem_append, not_or]
      exact ⟨not_mem_subscript hb (h _ (by simp)) hfirst,
        ih (fun s hs => h s (List.mem_cons_of_mem _ hs)) hothers⟩

theorem not_mem_rewrite {tag : Tag} (ht : ∀ s ∈ tag.texts, b ∉ s) {out : Text}
    (he : tag.rewrite = .ok out) : b ∉ out := by
  cases tag with
  | opening spelling subject =>
      simp only [rewrite, Except.ok.injEq] at he
      exact he ▸ not_mem_openBlock hb _ (ht _ (by simp [texts]))
  | define signature =>
      simp only [rewrite, Except.ok.injEq] at he
      have hs := not_mem_strip (ht signature (by simp [texts]))
      rw [← he]
      apply not_mem_statement hb
      simp only [List.mem_append, not_or, hs]
      rcases isBrace_iff.mp hb with rfl | rfl <;> decide
  | statement body =>
      simp only [rewrite, Except.ok.injEq] at he
      have hs := not_mem_strip (ht body (by simp [texts]))
      rw [← he]
      apply not_mem_statement hb
      apply not_mem_hostStatement hb
      intro s hm hc
      rcases Statement.mem_of_ofText hm b hc with hc | rfl
      · exact hs hc
      · cases hb
  | dump expr =>
      simp only [rewrite, Except.ok.injEq] at he
      exact he ▸ not_mem_preformatted hb (not_mem_strip (ht expr (by simp [texts])))
        (not_mem_of_braceFree hb (by decide))
  | print expr =>
      simp only [rewrite, Except.ok.injEq] at he
      exact he ▸ not_mem_preformatted hb (not_mem_strip (ht expr (by simp [texts])))
        (not_mem_of_braceFree hb (by decide))
  | echo expr =>
      simp only [rewrite, Except.ok.injEq] at he
      exact he ▸ not_mem_output hb (not_mem_strip (ht expr (by simp [texts])))
  | case expr =>
      simp only [rewrite, Except.ok.injEq] at he
      have hs := not_mem_strip (ht expr (by simp [texts]))
      rw [← he, List.mem_append, not_or]
      refine ⟨not_mem_statement hb ?_, not_mem_of_braceFree hb (by decide)⟩
      simp only [List.mem_append, not_or, hs]
      rcases isBrace_iff.mp hb with rfl | rfl <;> decide
  | closing spelling =>
      simp only [rewrite] at he
      split at he
      · next body hclose =>
        simp only [Except.ok.injEq] at he
        have hbody : BraceFree body := by
          unfold closeBlock? at hclose
          split_ifs at hclose <;> simp only [Option.some.injEq] at hclose <;> subst hclose <;>
            decide
        exact he ▸ not_mem_statement hb (not_mem_of_braceFree hb hbody)
      · simp at he
  | elseif expr =>
      simp only [rewrite, Except.ok.injEq] at he
      have hs := not_mem_strip (ht expr (by simp [texts]))
      rw [← he]
      apply not_mem_statement hb
      simp only [List.mem_append, not_or, hs]
      rcases isBrace_iff.mp hb with rfl | rfl <;> decide
  | path head segments =>
      obtain ⟨keys, hkeys, he⟩ := Except.bind_eq_ok.mp he
      simp only [Except.ok.injEq] at he
      have hhead := not_mem_strip (ht head (by simp [texts]))
      have hk := not_mem_subscripts hb (fun s hs => ht s (by simp [texts, hs])) hkeys
      rw [← he]
      apply not_mem_output hb
      simp only [List.cons_append, List.append_assoc, List.mem_cons, List.mem_append, not_or,
        hhead, hk]
      rcases isBrace_iff.mp hb with rfl | rfl <;> decide
  | interpolation expr =>
      simp only [rewrite, Except.ok.injEq] at he
      have hs := not_mem_strip (ht expr (by simp [texts]))
      rw [← he]
      apply not_mem_output hb
      simp only [List.cons_append, List.mem_cons, List.mem_append, not_or, hs]
      rcases isBrace_iff.mp hb with rfl | rfl <;> decide
  | _ =>
      simp only [rewrite, Except.ok.injEq] at he
      exact he ▸ not_mem_of_braceFree hb (by decide)

end Tag

end Braces

namespace Tag

theorem braceFree_rewrite {tag : Tag} (ht : ∀ s ∈ tag.texts, BraceFree s) {out : Text}
    (he : tag.rewrite = .ok out) : BraceFree out :=
  braceFree_iff_not_mem.mpr
    ⟨not_mem_rewrite (by decide) (fun s hs => (braceFree_iff_not_mem.mp (ht s hs)).1) he,
      not_mem_rewrite (by decide) (fun s hs => (braceFree_iff_not_mem.mp (ht s hs)).2) he⟩

-- What a tag becomes starts with the start of a statement, of an output or of a frame around it,
-- or with a blank before the end of a statement.
theorem head?_rewrite {tag : Tag} (hi : ∀ list, tag ≠ .insertion list) (hm : tag ≠ .merge)
    {out : Text} (he : tag.rewrite = .ok out) :
    out.head? = some '<' ∨ out.head? = some ' ' := by
  cases tag with
  | opening spelling subject =>
      simp only [rewrite, Except.ok.injEq] at he
      subst he
      unfold openBlock
      left
      split_ifs <;> rfl
  | closing spelling =>
      simp only [rewrite] at he
      split at he
      · simp only [Except.ok.injEq] at he
        subst he
        exact Or.inl rfl
      · simp at he
  | path head segments =>
      obtain ⟨keys, -, he⟩ := Except.bind_eq_ok.mp he
      simp only [Except.ok.injEq] at he
      subst he
      exact Or.inl rfl
  | insertion list => exact absurd rfl (hi list)
  | merge => exact absurd rfl hm
  | leave =>
      simp only [rewrite, Except.ok.injEq] at he
      subst he
      exact Or.inr rfl
  | _ =>
      simp only [rewrite, Except.ok.injEq] at he
      subst he
      exact Or.inl rfl

end Tag

end BraceTemplate
