import BraceTemplate.Proofs.Shown.Numbered
import BraceTemplate.Proofs.Shown.Read
import BraceTemplate.Proofs.Tree.Data
import BraceTemplate.Proofs.Tree.Execute

namespace BraceTemplate.Host.Store

-- What is read of a store through its addresses, now and however the store grows, as long as there is
-- room to go down and nothing on the way down comes again.
def Settles {α : Type} (s : Store) (read : (Nat → Datum) → α) (a : α) : Prop :=
  ∀ s', s.Grows s' → ∀ budget path, s.cells.size ≤ budget → (∀ p ∈ path, s.cells.size ≤ p) →
    read (s'.deref budget path) = a

section Settles

variable {α : Type} {s s' : Store} {read : (Nat → Datum) → α} {a : α}

theorem settles_const (a : α) : s.Settles (fun _ => a) a := fun _ _ _ _ _ _ => rfl

theorem Settles.grow (h : s.Settles read a) (hs : s.Grows s') : s'.Settles read a :=
  fun s'' hs'' budget path hbudget hpath =>
    h s'' (hs.trans hs'') budget path (Nat.le_trans hs.size hbudget)
      fun p hp => Nat.le_trans hs.size (hpath p hp)

theorem Settles.map {β : Type} (h : s.Settles read a) (f : α → β) :
    s.Settles (fun deref => f (read deref)) (f a) :=
  fun s' hs budget path hbudget hpath => congrArg f (h s' hs budget path hbudget hpath)

theorem Settles.map₂ {β γ : Type} {read' : (Nat → Datum) → β} {b : β} (h : s.Settles read a)
    (h' : s.Settles read' b) (f : α → β → γ) :
    s.Settles (fun deref => f (read deref) (read' deref)) (f a b) :=
  fun s' hs budget path hbudget hpath =>
    (congrArg (f · _) (h s' hs budget path hbudget hpath)).trans
      (congrArg (f a) (h' s' hs budget path hbudget hpath))

theorem Settles.of_eq {read' : (Nat → Datum) → α} (h : s.Settles read a)
    (heq : ∀ deref, read' deref = read deref) : s.Settles read' a :=
  fun s' hs budget path hbudget hpath => (heq _).trans (h s' hs budget path hbudget hpath)

theorem Settles.reify {v : Value} {d : Datum} (h : s.Settles v.reifyWith d) (hs : s.Grows s') :
    s'.reify v = d :=
  h s' hs _ [] (Nat.le_trans hs.size (Nat.le_succ _)) fun _ hp => absurd hp List.not_mem_nil

-- A new cell is read by reading what is in it, which lies below.
theorem Settles.new (h : s.Settles read a) {c : Cell} {wrap : α → Datum}
    (hread : ∀ (s' : Store) budget path, s'.find? s.cells.size = some c →
      path.contains s.cells.size = false →
        s'.deref (budget + 1) path s.cells.size = wrap (read (s'.deref budget (s.cells.size :: path)))) :
    (s.new c).2.Settles (Value.ref s.cells.size).reifyWith (wrap a) := by
  suffices haddress : (s.new c).2.Settles (fun deref => deref s.cells.size) (wrap a) from
    haddress.of_eq fun deref => by rw [Value.reifyWith]
  intro s' hs budget path hbudget hpath
  have hsize : (s.new c).2.cells.size = s.cells.size + 1 := by simp [Store.new]
  rw [hsize] at hbudget hpath
  obtain ⟨budget, rfl⟩ : ∃ n, budget = n + 1 := ⟨budget - 1, by omega⟩
  have hcell : s'.find? s.cells.size = some c :=
    (hs.cells _ (hsize ▸ Nat.lt_succ_self _)).trans (find?_new s c)
  have hnot : path.contains s.cells.size = false := contains_eq_false hpath (Nat.lt_succ_self _)
  have hbelow := le_of_mem_cons hpath (Nat.lt_succ_self s.cells.size)
  exact (hread s' budget path hcell hnot).trans
    (congrArg wrap (h s' ((grows_new s c).trans hs) budget _ (Nat.le_of_succ_le_succ hbudget) hbelow))

end Settles

-- What putting data into a store leaves: the store has grown, a number of marks were given out, and what
-- was put in is read as it should be, if all of it can be shown.
structure Puts {α : Type} (s s' : Store) (marks : Nat) (whole : Bool) (read : (Nat → Datum) → α) (a : α) :
    Prop where
  grows : s.Grows s'
  marks : s'.marks = marks
  settles : whole = true → s'.Settles read a

theorem marked_eq (s : Store) (c : Scalar) :
    s.marked c = if c.isNan then (.scalar (.nan s.marks), { s with marks := s.marks + 1 })
      else (.scalar c, s) := by
  cases c <;> rfl

theorem puts_marked (s : Store) (c : Scalar) (whole : Bool) :
    Puts s (s.marked c).2 ((Datum.scalar c).numbered s.marks).2 whole (s.marked c).1.reifyWith
      ((Datum.scalar c).numbered s.marks).1 := by
  have hscalar : ∀ (s : Store) (c : Scalar), s.Settles (Value.scalar c).reifyWith (.scalar c) := fun s c =>
    (settles_const _).of_eq fun deref => by rw [Value.reifyWith]
  rw [marked_eq, Datum.numbered]
  split
  · exact ⟨⟨Nat.le_refl _, fun _ _ => rfl⟩, rfl, fun _ => hscalar _ _⟩
  · exact ⟨.refl s, rfl, fun _ => hscalar _ _⟩

mutual

-- Putting a tree of data into a store gives a value that stands for it, each `nan` with a mark of its
-- own.
theorem puts_load (d : Datum) (s : Store) :
    Puts s (s.load d).2 (d.numbered s.marks).2 d.isWhole (s.load d).1.reifyWith (d.numbered s.marks).1 := by
  cases d with
  | scalar c => exact puts_marked s c _
  | list items =>
      have h := puts_loadItems items s
      have hnew := grows_new (s.loadItems items).2 (.list (s.loadItems items).1.toArray)
      refine ⟨h.grows.trans hnew, h.marks, fun hd => (h.settles hd).new fun s' budget path hcell hnot => ?_⟩
      rw [deref, hcell]
      simp only [hnot, Bool.false_eq_true, if_false]
  | tuple items =>
      have h := puts_loadItems items s
      exact ⟨h.grows, h.marks, fun hd => ((h.settles hd).map Datum.tuple).of_eq fun deref => by
        rw [load, Value.reifyWith]⟩
  | set frozen items =>
      have h := puts_loadItems items s
      exact ⟨h.grows, h.marks, fun hd => ((h.settles hd).map (Datum.set frozen)).of_eq fun deref => by
        rw [load, Value.reifyWith]⟩
  | dict entries =>
      have h := puts_loadEntries entries s
      have hnew := grows_new (s.loadEntries entries).2 (.dict (.ofDistinct (s.loadEntries entries).1))
      refine ⟨h.grows.trans hnew, h.marks, fun hd => (h.settles hd).new fun s' budget path hcell hnot => ?_⟩
      rw [deref, hcell]
      simp only [hnot, Bool.false_eq_true, if_false, pairs_ofDistinct]
  | view entries =>
      have h := puts_loadEntries entries s
      exact ⟨h.grows, h.marks, fun hd => ((h.settles hd).map Datum.view).of_eq fun deref => by
        rw [load, Value.reifyWith]⟩
  | other kind identity shown => exact ⟨.refl s, rfl, fun hd => absurd hd Bool.false_ne_true⟩

theorem puts_loadItems (items : List Datum) (s : Store) :
    Puts s (s.loadItems items).2 (Datum.numberedItems s.marks items).2 (Datum.wholeItems items)
      (fun deref => reifyItems deref (s.loadItems items).1) (Datum.numberedItems s.marks items).1 := by
  cases items with
  | nil => exact ⟨.refl s, rfl, fun _ => settles_const []⟩
  | cons d rest =>
      have hfirst := puts_load d s
      have hrest := puts_loadItems rest (s.load d).2
      rw [hfirst.marks] at hrest
      refine ⟨hfirst.grows.trans hrest.grows, hrest.marks, fun hd => ?_⟩
      simp only [Datum.wholeItems, Bool.and_eq_true] at hd
      exact ((hfirst.settles hd.1).grow hrest.grows).map₂ (hrest.settles hd.2) List.cons

theorem puts_loadEntries (entries : List (Datum × Datum)) (s : Store) :
    Puts s (s.loadEntries entries).2 (Datum.numberedEntries s.marks entries).2 (Datum.wholeEntries entries)
      (fun deref => reifyEntries deref ((s.loadEntries entries).1.map fun e => (e.key, e.value)))
      (Datum.numberedEntries s.marks entries).1 := by
  cases entries with
  | nil => exact ⟨.refl s, rfl, fun _ => settles_const []⟩
  | cons entry rest =>
      obtain ⟨k, d⟩ := entry
      have hkey := puts_load k s
      have hvalue := puts_load d (s.load k).2
      have hothers := puts_loadEntries rest ((s.load k).2.load d).2
      rw [hkey.marks] at hvalue
      rw [hvalue.marks] at hothers
      refine ⟨hkey.grows.trans (hvalue.grows.trans hothers.grows), hothers.marks, fun hd => ?_⟩
      simp only [Datum.wholeEntries, Bool.and_eq_true] at hd
      obtain ⟨⟨hk, hd⟩, hrest⟩ := hd
      have hentry := ((hkey.settles hk).grow (hvalue.grows.trans hothers.grows)).map₂
        ((hvalue.settles hd).grow hothers.grows) Prod.mk
      exact hentry.map₂ (hothers.settles hrest) List.cons

end

end BraceTemplate.Host.Store

namespace BraceTemplate

open Host Run

namespace Host.Run

section Writes

variable {α β : Type} {s : Store} {g : Setting} {v : Value} {d : Datum}

-- A run that gives something made of a tree and changes nothing, if all numbers in the tree can be
-- written, and fails otherwise.
def Writes (r : Run α) (g : Setting) (s : Store) (d : Datum) (a : α) : Prop :=
  Meets r g s (if d.writable then .ok () else .error .wrongValue) fun a' _ s' => a' = a ∧ s' = s

theorem Gives.bind_writes {r : Run α} {f : α → Run β} {a : α} {b : β} (h : Gives r g s a s)
    (hf : Writes (f a) g s d b) : Writes (r >>= f) g s d b :=
  h.bind_meets hf

theorem Writes.bind {r : Run α} {f : α → Run β} {a : α} {b : β} (h : Writes r g s d a)
    (hf : Gives (f a) g s b s) : Writes (r >>= f) g s d b := by
  have hexpected : (if d.writable then Except.ok () else .error Error.wrongValue) =
      (if d.writable then .ok () else .error .wrongValue) >>= .ok := (bind_pure _).symm
  rw [Writes, hexpected]
  refine Meets.bind h ?_
  rintro a' _ s' ⟨rfl, rfl⟩
  exact hf.meets ⟨rfl, rfl⟩

theorem Writes.executes {r : Run Text} {t : Text} (h : Writes r g s d t) (home level : Nat) :
    Executes home level r g s (if d.writable then .ok t else .error .wrongValue) := by
  by_cases hd : d.writable = true
  · simp only [Writes, hd, if_true] at h ⊢
    obtain ⟨a, s', hgives, rfl, rfl⟩ := h
    exact hgives.meets ⟨rfl, .refl _ _ _⟩
  · simp only [Writes, hd, Bool.false_eq_true, if_false] at h ⊢
    exact h

theorem gives_reify (h : s.reify v = d) : Gives (reify v) g s d s := by
  rw [← h]
  rfl

theorem writes_reify (h : s.reify v = d) {f : Datum → Run α} {a : α} (hf : Gives (f d) g s a s) :
    Writes (do let d ← reify v; writable d; f d) g s d a := by
  have hwritable : Writes (writable d) g s d () :=
    .ite (fun _ => (gives_pure ()).meets ⟨rfl, rfl⟩) fun _ => meets_fail _
  exact (gives_reify h).bind_writes (hwritable.bind hf)

-- The text of a value, of which all can be shown.
theorem writes_text (h : s.reify v = d) (hd : d.isWhole = true) : Writes (text v) g s d d.printed := by
  have hprinted : Writes (do let d ← reify v; writable d; pure d.printed) g s d d.printed :=
    writes_reify h (gives_pure _)
  cases v with
  | scalar c =>
      obtain rfl : d = .scalar c := by rw [← h, Store.reify, Value.reifyWith]
      exact .ite (fun _ => (gives_pure _).meets ⟨rfl, rfl⟩) fun _ => meets_fail _
  | absent a =>
      subst h
      exact absurd hd Bool.false_ne_true
  | ref a =>
      refine (gives_cell? a).bind_writes ?_
      cases hcell : s.find? a with
      | none => exact hprinted
      | some c =>
          cases c with
          | loop l =>
              rw [← h, Store.reify, Value.reifyWith, Store.deref, hcell] at hd
              exact absurd hd Bool.false_ne_true
          | _ => exact hprinted
  | _ => exact hprinted

-- A value that is no text for markup yet is escaped.
theorem escaped_eq_of_ne_safe (hv : ∀ t, v ≠ .scalar (.safe t)) :
    Run.escaped v = do return .scalar (.safe (escape (← text v))) := by
  cases v with
  | scalar c =>
      cases c with
      | safe t => exact absurd rfl (hv t)
      | _ => rfl
  | _ => rfl

theorem writes_escaped (h : s.reify v = d) (hd : d.isWhole = true) (hsafe : ∀ t, d ≠ .scalar (.safe t)) :
    Writes (Run.escaped v) g s d (.scalar (.safe (escape d.printed))) := by
  have hv : ∀ t, v ≠ .scalar (.safe t) := by
    rintro t rfl
    exact hsafe t (by rw [← h, Store.reify, Value.reifyWith])
  rw [escaped_eq_of_ne_safe hv]
  exact (writes_text h hd).bind (gives_pure _)

theorem writes_dumped (h : s.reify v = d) (hd : d.isWhole = true) :
    Writes (dumped v ⟨[], []⟩) g s d (.str (d.dump 0)) := by
  have hbounded : Gives (if d.endless then fail .tooDeep else pure (.str (d.dump 0)) : Run Value) g s
      (.str (d.dump 0)) s := by
    rw [d.endless_eq_false hd]
    exact gives_pure _
  exact writes_reify (f := fun d => if d.endless then fail .tooDeep else pure (Value.str (d.dump 0))) h
    hbounded

theorem writes_pretty (h : s.reify v = d) : Writes (pretty v) g s d (.str d.pretty) :=
  writes_reify h (gives_pure _)

end Writes

-- What filters make of a value, the first one first.
def pipe (v : Value) : List String → Run Value
  | [] => pure v
  | w :: filters => applyFilter w.toList v ⟨[], []⟩ >>= (pipe · filters)

theorem eval_piped (scope : Scope) (e : Expr) (filters : List String) :
    Run.eval scope (pipedExpr e filters) = Run.eval scope e >>= (pipe · filters) := by
  induction filters generalizing e with
  | nil => exact (bind_pure _).symm
  | cons w filters ih =>
      have hfilter : Run.eval scope (.filter e w.toList [] [] none none) =
          Run.eval scope e >>= fun v => applyFilter w.toList v ⟨[], []⟩ := rfl
      rw [pipedExpr, ih, hfilter, bind_assoc]
      rfl

theorem exec_piped (scope : Scope) (e : Expr) (filters : List String) :
    exec scope (.output (pipedExpr e filters)) =
      Run.eval scope e >>= fun v => pipe v filters >>= Run.text := by
  rw [← bind_assoc]
  exact congrArg (· >>= Run.text) (eval_piped scope e filters)

end Host.Run

section Pipe

variable {s : Store} {g : Setting} {v : Value} {d : Datum}

theorem pipe_cons {w : String} {f : Value → Passed → Run Value} (hf : filter? w.toList = some f)
    (v : Value) (filters : List String) : pipe v (w :: filters) = f v ⟨[], []⟩ >>= (pipe · filters) := by
  rw [pipe, applyFilter, hf]

theorem pipe_escape (v : Value) : pipe v ["e"] = Run.escaped v := by
  rw [pipe_cons (f := fun v p => bare p (Run.escaped v)) rfl]
  exact bind_pure _

-- A text that a filter gives is still to be escaped.
theorem writes_filtered {w : String} {f : Value → Passed → Run Value} {t : Text}
    (hf : filter? w.toList = some f) (ht : Writes (f v ⟨[], []⟩) g s d (.str t)) :
    Writes (pipe v [w, "e"] >>= Run.text) g s d (escape t) := by
  have hescape : Gives (pipe (.str t) ["e"] >>= Run.text) g s (escape t) s := by
    rw [pipe_escape]
    rfl
  rw [pipe_cons hf, bind_assoc]
  exact ht.bind hescape

-- What comes of a value in a tag is its text, escaped.
theorem Showing.writes_pipe (tag : Showing) (h : s.reify v = d) (hd : d.isWhole = true)
    (hsafe : ∀ t, d ≠ .scalar (.safe t)) :
    Writes (pipe v tag.filters >>= Run.text) g s d (escape (tag.text d)) := by
  have hplain : Writes (pipe v ["e"] >>= Run.text) g s d (escape d.printed) := by
    rw [pipe_escape]
    exact (writes_escaped h hd hsafe).bind (gives_pure _)
  cases tag with
  | plain => exact hplain
  | short => exact hplain
  | dump => exact writes_filtered (f := dumped) rfl (writes_dumped h hd)
  | print => exact writes_filtered (f := fun v p => bare p (Run.pretty v)) rfl (writes_pretty h)

end Pipe

end BraceTemplate
