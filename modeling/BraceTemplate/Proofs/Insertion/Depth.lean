import BraceTemplate.Proofs.Flat.Plain
import BraceTemplate.Source.Files

namespace BraceTemplate

-- A step is stopped, or else another one ends as it does, with the same text or the same error.
-- Nothing but the stop is an insertion that is too deep.
def Agrees (stop : CompileError → Prop) {α : Type} (m m' : CompileM α) : Prop :=
  ∀ v, (∃ e, stop e ∧ m.run v = .error e) ∨
    (m'.run v = m.run v ∧ ∀ references limit, m.run v ≠ .error (.tooDeep references limit))

section Agrees

variable {stop : CompileError → Prop} {α β : Type}

theorem Agrees.of_not_tooDeep {m : CompileM α}
    (h : ∀ v references limit, m.run v ≠ .error (.tooDeep references limit)) : Agrees stop m m :=
  fun v => .inr ⟨rfl, h v⟩

theorem agrees_pure (a : α) : Agrees stop (pure a) (pure a) :=
  .of_not_tooDeep fun _ _ _ h => by cases h

theorem run_liftM (x : Except CompileError α) (v : Vault) :
    (liftM x : CompileM α).run v = x.map (·, v) := by
  cases x <;> rfl

theorem agrees_liftM {ε : Type} {x : Except ε α} {f : ε → CompileError}
    (hf : ∀ e references limit, f e ≠ .tooDeep references limit) :
    Agrees stop (liftM (x.mapError f)) (liftM (x.mapError f)) := by
  refine .of_not_tooDeep fun v references limit h => ?_
  rw [run_liftM] at h
  cases x with
  | error e => exact hf e references limit (Except.error.inj h)
  | ok a => cases h

-- The second step is compared where the first one has not been stopped, on what it has left.
theorem Agrees.bind {m m' : CompileM α} {f f' : α → CompileM β} (hm : Agrees stop m m')
    (hf : ∀ a, Agrees stop (f a) (f' a)) : Agrees stop (m >>= f) (m' >>= f') := by
  intro v
  rcases hm v with ⟨e, he, hrun⟩ | ⟨hsame, hdeep⟩
  · exact .inl ⟨e, he, by rw [StateT.run_bind, hrun]; rfl⟩
  · cases hrun : m.run v with
    | error e =>
        refine .inr ⟨by rw [StateT.run_bind, StateT.run_bind, hsame, hrun]; rfl,
          fun references limit h => hdeep references limit ?_⟩
        rw [StateT.run_bind, hrun] at h
        exact hrun.trans (congrArg Except.error (Except.error.inj h))
    | ok found =>
        have hnext : (m >>= f).run v = (f found.1).run found.2 := by
          rw [StateT.run_bind, hrun]; rfl
        have hnext' : (m' >>= f').run v = (f' found.1).run found.2 := by
          rw [StateT.run_bind, hsame, hrun]; rfl
        rw [hnext, hnext']
        exact hf found.1 found.2

theorem Agrees.yields {m m' : CompileM α} (h : Agrees stop m m') {v v' : Vault} {a : α}
    (ha : Yields m v a v') : Yields m' v a v' := by
  rcases h v with ⟨e, _, hrun⟩ | ⟨hsame, _⟩
  · rw [Yields, hrun] at ha
    cases ha
  · exact hsame.trans ha

theorem Agrees.assemble {emit emit' : α → CompileM Text} (h : ∀ a, Agrees stop (emit a) (emit' a))
    (pieces : List (Piece α)) :
    Agrees stop (Piece.assemble emit pieces) (Piece.assemble emit' pieces) := by
  induction pieces with
  | nil => exact agrees_pure []
  | cons piece pieces ih =>
      cases piece with
      | char c => exact ih.bind fun t => agrees_pure (c :: t)
      | hit a => exact (h a).bind fun out => ih.bind fun t => agrees_pure (out ++ t)

theorem Agrees.foldlM {step step' : β → α → CompileM β}
    (h : ∀ b a, Agrees stop (step b a) (step' b a)) (items : List α) (b : β) :
    Agrees stop (items.foldlM step b) (items.foldlM step' b) := by
  induction items generalizing b with
  | nil => exact agrees_pure b
  | cons a items ih => exact (h b a).bind ih

namespace Compiler

variable {insert insert' : List Text → CompileM Text}

theorem agrees_rewriteTag (h : ∀ references, Agrees stop (insert references) (insert' references))
    (tag : Tag) : Agrees stop (rewriteTag insert tag) (rewriteTag insert' tag) := by
  cases tag with
  | insertion list => exact h _
  | _ => exact agrees_liftM fun _ _ _ h => by cases h

-- Two rewritings whose insertions agree go through the same tags and extensions.
theorem agrees_rewriteWith (c : Compiler)
    (h : ∀ references, Agrees stop (insert references) (insert' references)) (s : Text) :
    Agrees stop (c.rewriteWith insert s) (c.rewriteWith insert' s) := by
  have hget : Agrees stop (get : CompileM Vault) get :=
    .of_not_tooDeep fun _ _ _ h => by cases h
  have hset : ∀ w : Vault, Agrees stop (set w : CompileM PUnit) (set w) :=
    fun w => .of_not_tooDeep fun _ _ _ h => by cases h
  refine hget.bind fun v => (hset (v.protect s).2).bind fun _ =>
    (Agrees.foldlM (fun t find => ?_) Tag.recognisers (v.protect s).1).bind fun t =>
      Agrees.foldlM (fun t e => ?_) c.extensions t
  · exact .assemble (agrees_rewriteTag h) _
  · exact .assemble (fun _ => agrees_liftM fun _ _ _ h => by cases h) _

end Compiler

end Agrees

namespace Compiler

-- A compiler under another limit on the depth of insertions.
def within (c : Compiler) (limit : Int) : Compiler :=
  { c with maxDepth := limit }

variable {c : Compiler} {fs : FileSystem} {limit : Int}

theorem readAll_within (references : List Text) :
    (c.within limit).readAll fs references = c.readAll fs references := by
  induction references with
  | nil => rfl
  | cons reference references ih =>
      rw [readAll, readAll, ih]
      rfl

-- Where insertions may nest deeper they come out the same, unless they were cut off. The induction
-- is on the smaller depth, and the limit itself matters only where that is used up.
theorem agrees_insertAt (c : Compiler) (fs : FileSystem) (limit : Int) {depth depth' : Nat}
    (h : depth ≤ depth') (references : List Text) :
    Agrees (fun e => ∃ list, e = c.depthError list) (c.insertAt fs depth references)
      ((c.within limit).insertAt fs depth' references) := by
  induction depth generalizing depth' references with
  | zero => exact fun v => .inl ⟨_, ⟨references, rfl⟩, rfl⟩
  | succ depth ih =>
      obtain ⟨more, rfl⟩ := Nat.exists_eq_add_of_le' h
      have hinner : ∀ references, Agrees _ (c.insertAt fs depth references)
          ((c.within limit).insertAt fs (more + depth) references) := ih (Nat.le_add_left _ _)
      rw [← Nat.add_assoc]
      simp only [insertAt, readAll_within]
      refine (agrees_liftM fun _ _ _ h => by cases h).bind fun source => ?_
      rw [rewriteAt_eq, rewriteAt_eq]
      exact agrees_rewriteWith c hinner source

-- Past the room for insertions, a limit has no part in what they come out as.
theorem insertAt_within (h : ¬ c.maxDepth ≤ c.room) (h' : ¬ limit ≤ c.room) (depth : Nat) :
    (c.within limit).insertAt fs depth = c.insertAt fs depth := by
  induction depth with
  | zero =>
      have hlow : ¬ (c.within limit).maxDepth ≤ (c.within limit).room := h'
      simp only [insertAt, depthError, if_neg hlow, if_neg h]
  | succ depth ih =>
      funext references
      simp only [insertAt, readAll_within]
      congr 1
      funext source
      rw [rewriteAt_eq, rewriteAt_eq, ih]
      rfl

theorem compile_within_of_room_lt (fs : FileSystem) (h : ¬ c.maxDepth ≤ c.room)
    (h' : ¬ limit ≤ c.room) (s : Text) :
    (c.within limit).compile fs s = c.compile fs s := by
  have hdepth : min c.maxDepth.toNat c.room = c.room := by omega
  have hdepth' : min (c.within limit).maxDepth.toNat (c.within limit).room = c.room := by
    simp only [within]
    omega
  rw [compile, compile, hdepth, hdepth', rewriteAt_eq, rewriteAt_eq, insertAt_within h h']
  rfl

theorem agrees_rewriteAt (c : Compiler) (fs : FileSystem) (hlimit : c.maxDepth ≤ limit) (s : Text) :
    Agrees (fun e => ∃ list, e = c.depthError list)
      (c.rewriteAt fs (min c.maxDepth.toNat c.room) s)
      ((c.within limit).rewriteAt fs (min limit.toNat c.room) s) := by
  rw [rewriteAt_eq, rewriteAt_eq]
  refine agrees_rewriteWith c (fun references => agrees_insertAt c fs limit ?_ references) s
  have hnat := Int.toNat_le_toNat hlimit
  omega

-- A compilation is cut off, or it ends in the same way under every higher limit.
theorem compile_cut_or_same (c : Compiler) (fs : FileSystem) (hlimit : c.maxDepth ≤ limit) (s : Text) :
    (∃ list, c.compile fs s = .error (c.depthError list)) ∨
      ((c.within limit).compile fs s = c.compile fs s ∧
        ∀ list reached, c.compile fs s ≠ .error (.tooDeep list reached)) := by
  have hrun : ∀ c' : Compiler, c'.compile fs s =
      ((c'.rewriteAt fs (min c'.maxDepth.toNat c'.room) s).run .empty).map
        fun found => found.2.restore found.1 := by
    intro c'
    rw [compile]
    cases (c'.rewriteAt fs (min c'.maxDepth.toNat c'.room) s).run .empty <;> rfl
  rw [hrun c, hrun (c.within limit)]
  rcases agrees_rewriteAt c fs hlimit s .empty with ⟨_, ⟨list, rfl⟩, h⟩ | ⟨hsame, hdeep⟩
  · exact .inl ⟨list, by rw [h]; rfl⟩
  · refine .inr ⟨congrArg _ hsame, fun list reached h => hdeep list reached ?_⟩
    cases hc : (c.rewriteAt fs (min c.maxDepth.toNat c.room) s).run .empty with
    | ok found => rw [hc] at h; cases h
    | error e => rw [hc] at h; cases h; rfl

-- A file that inserts another one, and a file that inserts itself.
def ringFiles : Files :=
  ((Files.empty.write (.ofText "t/default/a.html".toList)
    (Utf8.encode "a\x7binclude b@t\x7d".toList)).write
    (.ofText "t/default/b.html".toList) (Utf8.encode "\x7b$y\x7d".toList)).write
    (.ofText "t/default/r.html".toList) (Utf8.encode "r\x7binclude r@t\x7d".toList)

def ringCompiler : Compiler where
  resolver := .make (Registry.empty.add "t".toList (.ofText "t".toList) 0) ".html".toList []
  maxDepth := defaultMaxDepth
  extensions := []
  room := defaultRoom

end Compiler

end BraceTemplate
