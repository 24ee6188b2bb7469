import BraceTemplate.Proofs.Flat.Reader
import BraceTemplate.Proofs.Flat.Scan
import BraceTemplate.Compile.Compiler

namespace BraceTemplate

open Text Segment

-- A compilation step that succeeds, with what it gives and what it leaves in the vault.
def Yields {α : Type} (m : CompileM α) (v : Vault) (a : α) (v' : Vault) : Prop :=
  m.run v = .ok (a, v')

section Yields

variable {α β : Type} {v v' : Vault}

@[simp] theorem yields_pure {a b : α} : Yields (pure a) v b v' ↔ b = a ∧ v' = v := by
  change Except.ok (a, v) = Except.ok (b, v') ↔ _
  simp [eq_comm]

theorem yields_bind {m : CompileM α} {f : α → CompileM β} {b : β} :
    Yields (m >>= f) v b v' ↔ ∃ a w, Yields m v a w ∧ Yields (f a) w b v' := by
  simp only [Yields, StateT.run_bind, Except.bind_eq_ok, Prod.exists]

theorem yields_lift {x : Except CompileError α} {a : α} :
    Yields (liftM x) v a v' ↔ x = .ok a ∧ v' = v := by
  change (x >>= fun a => Except.ok (a, v)) = Except.ok (a, v') ↔ _
  rw [Except.bind_eq_ok]
  constructor
  · rintro ⟨b, hx, he⟩
    cases he
    exact ⟨hx, rfl⟩
  · rintro ⟨hx, rfl⟩
    exact ⟨a, hx, rfl⟩

end Yields

theorem Except.mapError_eq_ok {ε ε' α : Type} {f : ε → ε'} {x : Except ε α} {a : α} :
    x.mapError f = .ok a ↔ x = .ok a := by
  cases x <;> simp [Except.mapError]


namespace Tag

-- What is read in a group by the first of two that reads anything.
def orElse (first second : Text → Option Tag) (body : Text) : Option Tag :=
  (first body).or (second body)

-- The result of rewriting what is read in the groups of a text, with the vault on its way from
-- group to group.
inductive Rewrites (insert : List Text → CompileM Text) (read : Text → Option Tag) :
    List Segment → Vault → Text → Vault → Prop where
  | nil (v : Vault) : Rewrites insert read [] v [] v
  | char (c : Char) {rest : List Segment} {v v' : Vault} {t : Text} :
      Rewrites insert read rest v t v' → Rewrites insert read (.char c :: rest) v (c :: t) v'
  | keep {body : Text} {rest : List Segment} {v v' : Vault} {t : Text} :
      read body = none → Rewrites insert read rest v t v' →
      Rewrites insert read (.group body :: rest) v ((Segment.group body).spell ++ t) v'
  | hit {body : Text} {rest : List Segment} {tag : Tag} {v w v' : Vault} {out t : Text} :
      read body = some tag → Yields (Compiler.rewriteTag insert tag) v out w →
      Rewrites insert read rest w t v' →
      Rewrites insert read (.group body :: rest) v (out ++ t) v'

section Rewrites

variable {insert : List Text → CompileM Text} {read : Text → Option Tag}
variable {segments rest : List Segment} {body : Text} {tag : Tag} {v v' : Vault} {t : Text}

theorem rewrites_nil_iff : Rewrites insert read [] v t v' ↔ t = [] ∧ v' = v := by
  constructor
  · rintro ⟨⟩
    exact ⟨rfl, rfl⟩
  · rintro ⟨rfl, rfl⟩
    exact .nil _

theorem rewrites_char_iff {c : Char} :
    Rewrites insert read (.char c :: rest) v t v' ↔
      ∃ t', t = c :: t' ∧ Rewrites insert read rest v t' v' := by
  constructor
  · rintro (_ | ⟨_, h⟩)
    exact ⟨_, rfl, h⟩
  · rintro ⟨t', rfl, h⟩
    exact .char c h

theorem rewrites_keep_iff (hr : read body = none) :
    Rewrites insert read (.group body :: rest) v t v' ↔
      ∃ t', t = (Segment.group body).spell ++ t' ∧ Rewrites insert read rest v t' v' := by
  constructor
  · rintro (_ | _ | ⟨_, h⟩ | ⟨hs, _, _⟩)
    · exact ⟨_, rfl, h⟩
    · simp [hr] at hs
  · rintro ⟨t', rfl, h⟩
    exact .keep hr h

theorem rewrites_hit_iff (hr : read body = some tag) :
    Rewrites insert read (.group body :: rest) v t v' ↔
      ∃ out w t', t = out ++ t' ∧ Yields (Compiler.rewriteTag insert tag) v out w ∧
        Rewrites insert read rest w t' v' := by
  constructor
  · rintro (_ | _ | ⟨hs, _⟩ | ⟨hs, hout, h⟩)
    · simp [hr] at hs
    · rw [hr, Option.some.injEq] at hs
      subst hs
      exact ⟨_, _, _, rfl, hout, h⟩
  · rintro ⟨out, w, t', rfl, hout, h⟩
    exact .hit hr hout h

-- A text is rewritten part by part.
theorem rewrites_append_iff {a b : List Segment} :
    Rewrites insert read (a ++ b) v t v' ↔
      ∃ x w y, t = x ++ y ∧ Rewrites insert read a v x w ∧ Rewrites insert read b w y v' := by
  induction a generalizing v t with
  | nil =>
      constructor
      · intro h
        exact ⟨[], v, t, rfl, .nil v, h⟩
      · rintro ⟨x, w, y, rfl, ⟨⟩, h⟩
        exact h
  | cons segment a ih =>
      cases segment with
      | char c =>
          simp only [List.cons_append, rewrites_char_iff, ih]
          constructor
          · rintro ⟨_, rfl, x, w, y, rfl, ha, hb⟩
            exact ⟨c :: x, w, y, rfl, ⟨x, rfl, ha⟩, hb⟩
          · rintro ⟨_, w, y, rfl, ⟨x, rfl, ha⟩, hb⟩
            exact ⟨x ++ y, rfl, x, w, y, rfl, ha, hb⟩
      | group body =>
          cases hr : read body with
          | none =>
              simp only [List.cons_append, rewrites_keep_iff hr, ih]
              constructor
              · rintro ⟨_, rfl, x, w, y, rfl, ha, hb⟩
                exact ⟨_, w, y, (List.append_assoc _ x y).symm, ⟨x, rfl, ha⟩, hb⟩
              · rintro ⟨_, w, y, rfl, ⟨x, rfl, ha⟩, hb⟩
                exact ⟨x ++ y, List.append_assoc _ x y, x, w, y, rfl, ha, hb⟩
          | some tag =>
              simp only [List.cons_append, rewrites_hit_iff hr, ih]
              constructor
              · rintro ⟨out, u, _, rfl, hout, x, w, y, rfl, ha, hb⟩
                exact ⟨out ++ x, w, y, (List.append_assoc out x y).symm,
                  ⟨out, u, x, rfl, hout, ha⟩, hb⟩
              · rintro ⟨_, w, y, rfl, ⟨out, u, x, rfl, hout, ha⟩, hb⟩
                exact ⟨out, u, x ++ y, List.append_assoc out x y, hout, x, w, y, rfl, ha, hb⟩

theorem yields_assemble_chars_iff {s : Text} {pieces : List (Piece Tag)}
    {emit : Tag → CompileM Text} :
    Yields (Piece.assemble emit (s.map .char ++ pieces)) v t v' ↔
      ∃ t', t = s ++ t' ∧ Yields (Piece.assemble emit pieces) v t' v' := by
  induction s generalizing v v' t with
  | nil => simp
  | cons c s ih =>
      simp only [List.map_cons, List.cons_append, Piece.assemble, yields_bind, yields_pure, ih]
      constructor
      · rintro ⟨_, w, ⟨t', rfl, h⟩, rfl, rfl⟩
        exact ⟨t', rfl, h⟩
      · rintro ⟨t', rfl, h⟩
        exact ⟨_, v', ⟨t', rfl, h⟩, rfl, rfl⟩

theorem yields_assemble_piecesOf_iff :
    Yields (Piece.assemble (Compiler.rewriteTag insert) (piecesOf read segments)) v t v' ↔
      Rewrites insert read segments v t v' := by
  induction segments generalizing v v' t with
  | nil => simp only [piecesOf, Piece.assemble, yields_pure, rewrites_nil_iff]
  | cons segment segments ih =>
      cases segment with
      | char c =>
          simp only [piecesOf, Piece.assemble, yields_bind, yields_pure, ih, rewrites_char_iff]
          constructor
          · rintro ⟨t', w, h, rfl, rfl⟩
            exact ⟨t', rfl, h⟩
          · rintro ⟨t', rfl, h⟩
            exact ⟨t', v', h, rfl, rfl⟩
      | group body =>
          cases hr : read body with
          | none =>
              simp only [piecesOf, hr, yields_assemble_chars_iff, ih, rewrites_keep_iff hr]
          | some tag =>
              simp only [piecesOf, hr, Piece.assemble, yields_bind, yields_pure, ih,
                rewrites_hit_iff hr]
              constructor
              · rintro ⟨out, w, hout, t', w', h, rfl, rfl⟩
                exact ⟨out, w, t', rfl, hout, h⟩
              · rintro ⟨out, w, t', rfl, hout, h⟩
                exact ⟨out, w, hout, t', v', h, rfl, rfl⟩

theorem yields_rewriteKind_iff {find : Recogniser Tag} (hfind : Grouped find read)
    (hs : SoundAll segments) :
    Yields (Compiler.rewriteKind insert (spellAll segments) find) v t v' ↔
      Rewrites insert read segments v t v' := by
  rw [Compiler.rewriteKind, hfind.scan_spellAll hs, yields_assemble_piecesOf_iff]

theorem rewriteTag_of_direct (hd : tag.Direct) :
    Compiler.rewriteTag insert tag = liftM (tag.rewrite.mapError CompileError.badTag) := by
  cases tag <;> first
    | exact hd.elim
    | rfl

theorem yields_rewriteTag_iff (hd : tag.Direct) :
    Yields (Compiler.rewriteTag insert tag) v t v' ↔ tag.rewrite = .ok t ∧ v' = v := by
  rw [rewriteTag_of_direct hd, yields_lift, Except.mapError_eq_ok]

-- Where nothing is inserted, the vault has no part in it.
theorem Rewrites.stateless (hread : ∀ body tag, read body = some tag → tag.Direct)
    (h : Rewrites insert read segments v t v') :
    v' = v ∧ ∀ u, Rewrites insert read segments u t u := by
  induction h with
  | nil v => exact ⟨rfl, .nil⟩
  | char c _ ih => exact ⟨ih.1, fun u => .char c (ih.2 u)⟩
  | keep hr _ ih => exact ⟨ih.1, fun u => .keep hr (ih.2 u)⟩
  | hit hr hout _ ih =>
      have hd := hread _ _ hr
      obtain ⟨hout, hw⟩ := (yields_rewriteTag_iff hd).mp hout
      exact ⟨ih.1.trans hw, fun u => .hit hr ((yields_rewriteTag_iff hd).mpr ⟨hout, rfl⟩) (ih.2 u)⟩

end Rewrites

-- Segments of a text whose groups are as some pass expects them.
def Fit (expected : Text → Prop) (segments : List Segment) : Prop :=
  SoundAll segments ∧ ∀ body, .group body ∈ segments → expected body

theorem fit_nil (expected : Text → Prop) : Fit expected [] := by
  simp [Fit]

theorem fit_char_iff {expected : Text → Prop} {c : Char} {rest : List Segment} :
    Fit expected (.char c :: rest) ↔ isBrace c = false ∧ Fit expected rest := by
  simp [Fit, Sound, and_assoc]

theorem fit_group_iff {expected : Text → Prop} {body : Text} {rest : List Segment} :
    Fit expected (.group body :: rest) ↔ BraceFree body ∧ expected body ∧ Fit expected rest := by
  simp only [Fit, soundAll_cons, Sound, List.mem_cons, Segment.group.injEq, forall_eq_or_imp]
  grind

theorem Fit.append {expected : Text → Prop} {a b : List Segment} (ha : Fit expected a)
    (hb : Fit expected b) : Fit expected (a ++ b) := by
  refine ⟨(soundAll_append a b).mpr ⟨ha.1, hb.1⟩, fun body hm => ?_⟩
  rcases List.mem_append.mp hm with hm | hm
  · exact ha.2 body hm
  · exact hb.2 body hm

-- A pass over the groups of a text seen from the pass behind it: the groups that are read give way
-- to segments in which `second` reads nothing.
inductive Settles (insert : List Text → CompileM Text) (behind : Text → Prop)
    (first second : Text → Option Tag) : List Segment → Vault → List Segment → Vault → Prop where
  | nil (v : Vault) : Settles insert behind first second [] v [] v
  | char (c : Char) {rest left : List Segment} {v v' : Vault} :
      Settles insert behind first second rest v left v' →
      Settles insert behind first second (.char c :: rest) v (.char c :: left) v'
  | keep {body : Text} {rest left : List Segment} {v v' : Vault} :
      first body = none → Settles insert behind first second rest v left v' →
      Settles insert behind first second (.group body :: rest) v (.group body :: left) v'
  | hit {body : Text} {rest inner left : List Segment} {tag : Tag} {v w v' : Vault} :
      first body = some tag → Yields (Compiler.rewriteTag insert tag) v (spellAll inner) w →
      Fit behind inner → (∀ b, .group b ∈ inner → second b = none) →
      Settles insert behind first second rest w left v' →
      Settles insert behind first second (.group body :: rest) v (inner ++ left) v'

-- What the first of two passes writes holds nothing for the second one to read, and its groups are
-- as they should be behind the first pass if they were as they should be before.
structure Tame (insert : List Text → CompileM Text) (before behind : Text → Prop)
    (first second : Text → Option Tag) : Prop where
  keep : ∀ body, first body = none → before body → behind body
  hit : ∀ body tag v out w, BraceFree body → before body → first body = some tag →
    Yields (Compiler.rewriteTag insert tag) v out w →
    ∃ inner, Fit behind inner ∧ spellAll inner = out ∧ ∀ b, .group b ∈ inner → second b = none

section Settles

variable {insert : List Text → CompileM Text} {before behind : Text → Prop}
variable {first second : Text → Option Tag}
variable {segments left : List Segment} {v v' : Vault} {t : Text}

theorem Settles.fit (htame : Tame insert before behind first second)
    (h : Settles insert behind first second segments v left v') (hs : Fit before segments) :
    Fit behind left := by
  induction h with
  | nil => exact fit_nil behind
  | char c _ ih =>
      rw [fit_char_iff] at hs ⊢
      exact ⟨hs.1, ih hs.2⟩
  | keep hr _ ih =>
      rw [fit_group_iff] at hs ⊢
      exact ⟨hs.1, htame.keep _ hr hs.2.1, ih hs.2.2⟩
  | hit _ _ hi _ _ ih => exact hi.append (ih (fit_group_iff.mp hs).2.2)

theorem Settles.stateless (hread : ∀ body tag, first body = some tag → tag.Direct)
    (h : Settles insert behind first second segments v left v') :
    v' = v ∧ ∀ u, Settles insert behind first second segments u left u := by
  induction h with
  | nil v => exact ⟨rfl, .nil⟩
  | char c _ ih => exact ⟨ih.1, fun u => .char c (ih.2 u)⟩
  | keep hr _ ih => exact ⟨ih.1, fun u => .keep hr (ih.2 u)⟩
  | hit hr hout hi hn _ ih =>
      have hd := hread _ _ hr
      obtain ⟨hout, hw⟩ := (yields_rewriteTag_iff hd).mp hout
      exact ⟨ih.1.trans hw,
        fun u => .hit hr ((yields_rewriteTag_iff hd).mpr ⟨hout, rfl⟩) hi hn (ih.2 u)⟩

theorem rewrites_iff_settles (htame : Tame insert before behind first second)
    (hs : Fit before segments) :
    Rewrites insert first segments v t v' ↔
      ∃ left, Settles insert behind first second segments v left v' ∧ spellAll left = t := by
  constructor
  · intro h
    induction h with
    | nil v => exact ⟨[], .nil v, rfl⟩
    | char c _ ih =>
        obtain ⟨left, hl, rfl⟩ := ih (fit_char_iff.mp hs).2
        exact ⟨.char c :: left, .char c hl, rfl⟩
    | keep hr _ ih =>
        obtain ⟨left, hl, rfl⟩ := ih (fit_group_iff.mp hs).2.2
        exact ⟨_ :: left, .keep hr hl, rfl⟩
    | hit hr hout _ ih =>
        obtain ⟨hb, hok, hs⟩ := fit_group_iff.mp hs
        obtain ⟨inner, hi, rfl, hn⟩ := htame.hit _ _ _ _ _ hb hok hr hout
        obtain ⟨left, hl, rfl⟩ := ih hs
        exact ⟨inner ++ left, .hit hr hout hi hn hl, by simp⟩
  · rintro ⟨left, h, rfl⟩
    clear hs
    induction h with
    | nil v => exact .nil v
    | char c _ ih => exact .char c ih
    | keep hr _ ih => exact .keep hr ih
    | hit hr hout _ _ _ ih =>
        rw [spellAll_append]
        exact .hit hr hout ih

theorem rewrites_unread_iff (hn : ∀ b, .group b ∈ segments → second b = none) :
    Rewrites insert second segments v t v' ↔ t = spellAll segments ∧ v' = v := by
  induction segments generalizing t with
  | nil => rw [rewrites_nil_iff, spellAll_nil]
  | cons segment segments ih =>
      have ih := fun t => ih (t := t) fun b hb => hn b (List.mem_cons_of_mem _ hb)
      cases segment with
      | char c =>
          simp only [rewrites_char_iff, ih, spellAll_cons, spell, List.singleton_append]
          grind
      | group b =>
          simp only [rewrites_keep_iff (hn b (by simp)), ih, spellAll_cons]
          grind

theorem rewrites_append_unread_iff {inner rest : List Segment}
    (hn : ∀ b, .group b ∈ inner → second b = none) :
    Rewrites insert second (inner ++ rest) v t v' ↔
      ∃ t', t = spellAll inner ++ t' ∧ Rewrites insert second rest v t' v' := by
  simp only [rewrites_append_iff, rewrites_unread_iff hn]
  constructor
  · rintro ⟨_, _, t', rfl, ⟨rfl, rfl⟩, h⟩
    exact ⟨t', rfl, h⟩
  · rintro ⟨t', rfl, h⟩
    exact ⟨_, v, t', rfl, ⟨rfl, rfl⟩, h⟩

theorem rewrites_congr (h : ∀ b, .group b ∈ segments → first b = second b) :
    Rewrites insert first segments v t v' ↔ Rewrites insert second segments v t v' := by
  induction segments generalizing v t with
  | nil => simp only [rewrites_nil_iff]
  | cons segment segments ih =>
      have ih := fun v t => ih (v := v) (t := t) fun b hb => h b (List.mem_cons_of_mem _ hb)
      cases segment with
      | char c => simp only [rewrites_char_iff, ih]
      | group body =>
          have hb := h body (by simp)
          cases hf : first body with
          | none => simp only [rewrites_keep_iff hf, rewrites_keep_iff (hb ▸ hf), ih]
          | some tag => simp only [rewrites_hit_iff hf, rewrites_hit_iff (hb ▸ hf), ih]

-- Two passes, of which one at least leaves the vault alone, come to the same as one pass that
-- reads each group with the first reader that knows it.
theorem rewrites_orElse_iff (htame : Tame insert before behind first second)
    (hless : (∀ body tag, first body = some tag → tag.Direct) ∨
      ∀ body tag, second body = some tag → tag.Direct)
    (hs : Fit before segments) :
    Rewrites insert (orElse first second) segments v t v' ↔
      ∃ left w, Settles insert behind first second segments v left w ∧
        Rewrites insert second left w t v' := by
  induction segments generalizing v t with
  | nil =>
      rw [rewrites_nil_iff]
      constructor
      · rintro ⟨rfl, rfl⟩
        exact ⟨[], _, .nil _, .nil _⟩
      · rintro ⟨left, w, ⟨⟩, h⟩
        exact rewrites_nil_iff.mp h
  | cons segment segments ih =>
      cases segment with
      | char c =>
          have ih := fun v t => ih (v := v) (t := t) (fit_char_iff.mp hs).2
          simp only [rewrites_char_iff, ih]
          constructor
          · rintro ⟨t', rfl, left, w, hset, h⟩
            exact ⟨_, w, .char c hset, .char c h⟩
          · rintro ⟨_, w, _ | ⟨_, hset⟩, h⟩
            obtain ⟨t', rfl, ht⟩ := rewrites_char_iff.mp h
            exact ⟨t', rfl, _, w, hset, ht⟩
      | group body =>
          obtain ⟨hb, hok, hs⟩ := fit_group_iff.mp hs
          have ih := fun v t => ih (v := v) (t := t) hs
          cases hf : first body with
          | some tag =>
              have hr : orElse first second body = some tag := by simp [orElse, hf]
              simp only [rewrites_hit_iff hr, ih]
              constructor
              · rintro ⟨out, u, t', rfl, hout, left, w, hset, h⟩
                obtain ⟨inner, hi, rfl, hn⟩ := htame.hit _ _ _ _ _ hb hok hf hout
                exact ⟨inner ++ left, w, .hit hf hout hi hn hset,
                  (rewrites_append_unread_iff hn).mpr ⟨t', rfl, h⟩⟩
              · rintro ⟨_, w, _ | _ | ⟨hk, _⟩ | ⟨hk, hout, hi, hn, hset⟩, h⟩
                · simp [hf] at hk
                · rw [hf, Option.some.injEq] at hk
                  subst hk
                  obtain ⟨t', rfl, ht⟩ := (rewrites_append_unread_iff hn).mp h
                  exact ⟨_, _, t', rfl, hout, _, w, hset, ht⟩
          | none =>
              have hkeep : ∀ {left w},
                  Settles insert behind first second (.group body :: segments) v left w → ∃ left',
                    left = .group body :: left' ∧ Settles insert behind first second segments v left' w := by
                rintro _ _ (_ | _ | ⟨_, hset⟩ | ⟨hk, _⟩)
                · exact ⟨_, rfl, hset⟩
                · simp [hf] at hk
              cases hsec : second body with
              | none =>
                  have hr : orElse first second body = none := by simp [orElse, hf, hsec]
                  simp only [rewrites_keep_iff hr, ih]
                  constructor
                  · rintro ⟨t', rfl, left, w, hset, h⟩
                    exact ⟨_, w, .keep hf hset, .keep hsec h⟩
                  · rintro ⟨_, w, hset, h⟩
                    obtain ⟨left, rfl, hleft⟩ := hkeep hset
                    obtain ⟨t', rfl, ht⟩ := (rewrites_keep_iff hsec).mp h
                    exact ⟨t', rfl, left, w, hleft, ht⟩
              | some tag =>
                  have hr : orElse first second body = some tag := by simp [orElse, hf, hsec]
                  simp only [rewrites_hit_iff hr, ih]
                  constructor
                  · rintro ⟨out, u, t', rfl, hout, left, w, hset, h⟩
                    rcases hless with hless | hless
                    · obtain ⟨rfl, hany⟩ := hset.stateless hless
                      exact ⟨_, v, .keep hf (hany v), .hit hsec hout h⟩
                    · have hd := hless _ _ hsec
                      obtain ⟨hwrite, rfl⟩ := (yields_rewriteTag_iff hd).mp hout
                      obtain ⟨rfl, hany⟩ := h.stateless hless
                      exact ⟨_, _, .keep hf hset,
                        .hit hsec ((yields_rewriteTag_iff hd).mpr ⟨hwrite, rfl⟩) (hany _)⟩
                  · rintro ⟨_, w, hset, h⟩
                    obtain ⟨left, rfl, hleft⟩ := hkeep hset
                    obtain ⟨out, u, t', rfl, hout, ht⟩ := (rewrites_hit_iff hsec).mp h
                    rcases hless with hless | hless
                    · obtain ⟨rfl, hany⟩ := hleft.stateless hless
                      exact ⟨out, u, t', rfl, hout, left, u, hany u, ht⟩
                    · have hd := hless _ _ hsec
                      obtain ⟨hwrite, rfl⟩ := (yields_rewriteTag_iff hd).mp hout
                      exact ⟨out, v, t', rfl, (yields_rewriteTag_iff hd).mpr ⟨hwrite, rfl⟩, left, _,
                        hleft, ht⟩

-- One pass in front of others.
theorem yields_pass_iff {find : Recogniser Tag} (hfind : Grouped find first)
    (htame : Tame insert before behind first second)
    (hless : (∀ body tag, first body = some tag → tag.Direct) ∨
      ∀ body tag, second body = some tag → tag.Direct)
    {next : Text → CompileM Text}
    (hnext : ∀ {left w t v'}, Fit behind left →
      (Yields (next (spellAll left)) w t v' ↔ Rewrites insert second left w t v'))
    (hs : Fit before segments) :
    Yields (Compiler.rewriteKind insert (spellAll segments) find >>= next) v t v' ↔
      Rewrites insert (orElse first second) segments v t v' := by
  simp only [yields_bind, yields_rewriteKind_iff hfind hs.1, rewrites_iff_settles htame hs,
    rewrites_orElse_iff htame hless hs]
  constructor
  · rintro ⟨_, w, ⟨left, hset, rfl⟩, h⟩
    exact ⟨left, w, hset, (hnext (hset.fit htame hs)).mp h⟩
  · rintro ⟨left, w, hset, h⟩
    exact ⟨_, w, ⟨left, hset, rfl⟩, (hnext (hset.fit htame hs)).mpr h⟩

end Settles

-- What a row of readers reads in a group, with another reader behind them.
def readWith (readers : List Reader) (last : Text → Option Tag) : Text → Option Tag :=
  readers.foldr (fun reader rest => orElse reader.read rest) last

theorem Reader.tame (reader : Reader) (insert : List Text → CompileM Text)
    (expected : Text → Prop) (second : Text → Option Tag) :
    Tame insert expected expected reader.read second where
  keep _ _ h := h
  hit body tag v out w hb _ hr hout := by
    obtain ⟨hout, -⟩ := (yields_rewriteTag_iff (reader.direct hr)).mp hout
    have htexts : ∀ s ∈ tag.texts, BraceFree s :=
      fun s hs => hb.of_subset (reader.texts_subset hr s hs)
    have hsound := soundAll_chars (braceFree_rewrite htexts hout)
    exact ⟨chars out, ⟨hsound, by simp [chars]⟩, spellAll_chars out, by simp [chars]⟩

theorem yields_passes_iff {insert : List Text → CompileM Text} {expected : Text → Prop}
    {last : Text → Option Tag} {next : Text → CompileM Text}
    (hnext : ∀ {left w t v'}, Fit expected left →
      (Yields (next (spellAll left)) w t v' ↔ Rewrites insert last left w t v'))
    (readers : List Reader) {segments : List Segment} (hs : Fit expected segments) {v v' : Vault}
    {t : Text} :
    Yields ((readers.map Reader.find).foldlM (Compiler.rewriteKind insert) (spellAll segments) >>=
        next) v t v' ↔ Rewrites insert (readWith readers last) segments v t v' := by
  induction readers generalizing segments v t v' with
  | nil =>
      simp only [List.map_nil, List.foldlM_nil, pure_bind, readWith, List.foldr_nil]
      exact hnext hs
  | cons reader readers ih =>
      simp only [List.map_cons, List.foldlM_cons, bind_assoc]
      exact yields_pass_iff reader.grouped (reader.tame insert expected _)
        (.inl fun _ _ => reader.direct) (fun hleft => ih hleft) hs

end Tag

end BraceTemplate
