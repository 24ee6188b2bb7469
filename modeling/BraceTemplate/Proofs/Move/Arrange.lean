import BraceTemplate.Proofs.Move.Basic

namespace BraceTemplate

namespace Arrange

-- Two kinds of computation that can be kept in step: what gives related values stays related however it is
-- put together.
structure Alongside (m n : Type → Type) [Monad m] [Monad n] where
  rel : {α β : Type} → (α → β → Prop) → m α → n β → Prop
  pure : ∀ {α β : Type} {R : α → β → Prop} {a : α} {b : β}, R a b → rel R (pure a) (pure b)
  bind : ∀ {α β γ δ : Type} {R : α → β → Prop} {S : γ → δ → Prop} {x : m α} {y : n β} {f : α → m γ}
    {g : β → n δ}, rel R x y → (∀ a b, R a b → rel S (f a) (g b)) → rel S (x >>= f) (y >>= g)

namespace Alongside

variable {m n : Type → Type} [Monad m] [Monad n] {α β : Type} {before : α → α → m Bool}
  {before' : β → β → n Bool} {f : α → β}

-- Two orders that give the same answers, the second one on what the items of the first are turned into.
def Orders (l : Alongside m n) (before : α → α → m Bool) (before' : β → β → n Bool) (f : α → β) : Prop :=
  ∀ a b, l.rel (fun x y => y = x) (before a b) (before' (f a) (f b))

variable {l : Alongside m n} (h : l.Orders before before' f)

include h

theorem leadLength (falling : Bool) (last : α) (items : List α) :
    l.rel (fun x y => y = x) (Arrange.leadLength before falling last items)
      (Arrange.leadLength before' falling (f last) (items.map f)) := by
  induction items generalizing last with
  | nil => exact l.pure rfl
  | cons x rest ih =>
      refine l.bind (h x last) ?_
      rintro _ answer rfl
      split
      · refine l.bind (ih x) ?_
        rintro _ more rfl
        exact l.pure rfl
      · exact l.pure rfl

theorem place (x : α) (done : Array α) (lo hi : Nat) :
    l.rel (fun x y => y = x) (Arrange.place before x done lo hi)
      (Arrange.place before' (f x) (done.map f) lo hi) := by
  rw [Arrange.place, Arrange.place]
  by_cases hlt : lo < hi
  · simp only [if_pos hlt, Array.getElem?_map]
    cases done[lo + (hi - lo) / 2]? with
    | none => exact l.pure rfl
    | some y =>
        refine l.bind (h x y) ?_
        rintro _ answer rfl
        split
        · exact place x done lo (lo + (hi - lo) / 2)
        · exact place x done (lo + (hi - lo) / 2 + 1) hi
  · rw [if_neg hlt, if_neg hlt]
    exact l.pure rfl
termination_by hi - lo

theorem insertAll (done : Array α) (items : List α) :
    l.rel (fun xs ys => ys = xs.map f) (Arrange.insertAll before done items)
      (Arrange.insertAll before' (done.map f) (items.map f)) := by
  induction items generalizing done with
  | nil => exact l.pure rfl
  | cons x rest ih =>
      rw [Arrange.insertAll, List.map_cons, Arrange.insertAll, Array.size_map]
      refine l.bind (l.place h x done 0 done.size) ?_
      rintro _ k rfl
      have hput : (((done.map f).extract 0 k).push (f x) ++ (done.map f).extract k (done.map f).size) =
          ((done.extract 0 k).push x ++ done.extract k done.size).map f := by
        simp
      rw [Array.size_map] at hput
      rw [hput]
      exact ih _

theorem few (items : List α) :
    l.rel (fun xs ys => ys = xs.map f) (Arrange.few before items) (Arrange.few before' (items.map f)) := by
  match items with
  | [] => exact l.pure rfl
  | [_] => exact l.pure rfl
  | x :: y :: rest =>
      refine l.bind (h y x) ?_
      rintro _ falling rfl
      refine l.bind (l.leadLength h falling y rest) ?_
      rintro _ count rfl
      have hlead : (if falling then (f x :: f y :: (rest.map f).take count).reverse
            else f x :: f y :: (rest.map f).take count) =
          (if falling then (x :: y :: rest.take count).reverse else x :: y :: rest.take count).map f := by
        split <;> simp [List.map_take]
      dsimp only
      rw [hlead, ← List.map_drop, ← List.map_toArray]
      refine l.bind (l.insertAll h _ _) ?_
      rintro done _ rfl
      exact l.pure (by simp)

theorem merge (fuel : Nat) (acc xs ys : List α) :
    l.rel (fun xs ys => ys = xs.map f) (Arrange.merge before fuel acc xs ys)
      (Arrange.merge before' fuel (acc.map f) (xs.map f) (ys.map f)) := by
  induction fuel generalizing acc xs ys with
  | zero => exact l.pure (by simp)
  | succ fuel ih =>
      match xs, ys with
      | [], ys => exact l.pure (by simp)
      | x :: xs, [] => exact l.pure (by simp)
      | x :: xs, y :: ys =>
          refine l.bind (h y x) ?_
          rintro _ answer rfl
          split
          · exact ih (y :: acc) (x :: xs) ys
          · exact ih (x :: acc) xs (y :: ys)

theorem halves (fuel : Nat) (items : List α) :
    l.rel (fun xs ys => ys = xs.map f) (Arrange.halves before fuel items)
      (Arrange.halves before' fuel (items.map f)) := by
  induction fuel generalizing items with
  | zero => exact l.few h items
  | succ fuel ih =>
      rw [Arrange.halves, Arrange.halves, List.length_map]
      split
      · exact l.few h items
      · simp only [← List.map_take, ← List.map_drop]
        refine l.bind (ih _) ?_
        rintro first _ rfl
        refine l.bind (ih _) ?_
        rintro second _ rfl
        exact l.merge h items.length [] first second

-- Items are arranged in step with what they are turned into.
theorem sort (items : List α) :
    l.rel (fun xs ys => ys = xs.map f) (Arrange.sort before items) (Arrange.sort before' (items.map f)) := by
  rw [Arrange.sort, Arrange.sort, List.length_map]
  exact l.halves h items.length items

theorem sortDown (items : List α) :
    l.rel (fun xs ys => ys = xs.map f) (Arrange.sortDown before items)
      (Arrange.sortDown before' (items.map f)) := by
  rw [Arrange.sortDown, Arrange.sortDown, ← List.map_reverse]
  refine l.bind (l.sort h _) ?_
  rintro done _ rfl
  exact l.pure (by simp)

end Alongside

-- What gives its answer at once.
def atOnce : Alongside Id Id where
  rel R x y := R x y
  pure h := h
  bind h hf := hf _ _ h

end Arrange

section Laid

variable {m : Host.Move}

namespace Layout

@[simp]
theorem keyBefore_moved (a b : Datum) : keyBefore (a.moved m) (b.moved m) = keyBefore a b := by
  have hname : ∀ d : Datum, sortName (d.moved m) = sortName d := by
    intro d
    unfold sortName
    cases d with
    | scalar s => cases s <;> rfl
    | set frozen items => cases frozen <;> rfl
    | _ => rfl
  rw [keyBefore, keyBefore, Datum.before?_moved, hname, hname]

theorem sortByKey_moved {β : Type} (entries : List (Datum × β)) :
    sortByKey (entries.map fun e => (e.1.moved m, e.2)) =
      (sortByKey entries).map fun e => (e.1.moved m, e.2) := by
  have horders : Arrange.atOnce.Orders
      (fun a b : Datum × β => (Pure.pure (keyBefore a.1 b.1) : Id Bool))
      (fun a b => Pure.pure (keyBefore a.1 b.1)) (fun e => (e.1.moved m, e.2)) :=
    fun a b => keyBefore_moved a.1 b.1
  exact Arrange.atOnce.sort horders entries

mutual

theorem ofDatum_moved : ∀ d : Datum, ofDatum (d.moved m) = ofDatum d
  | .scalar s => by cases s <;> rfl
  | .list items => by simp only [Datum.moved, ofDatum, ofItems_moved items]
  | .tuple items => by simp only [Datum.moved, ofDatum, ofItems_moved items]
  | .set frozen items => by
    have hquoted : (Datum.set frozen (Datum.movedItems m items)).quoted = (Datum.set frozen items).quoted :=
      Datum.quoted_moved (.set frozen items)
    simp only [Datum.moved, ofDatum, ofItems_moved items, hquoted]
  | .dict entries => by
    simp only [Datum.moved, ofDatum, ofEntries_moved entries, sortByKey_moved, List.map_map]
    rfl
  | .view entries => by
    have hquoted : (Datum.view (Datum.movedEntries m entries)).quoted = (Datum.view entries).quoted :=
      Datum.quoted_moved (.view entries)
    simp only [Datum.moved, ofDatum, ofEntries_moved entries, sortByKey_moved, List.map_map, hquoted]
    rfl
  | .other .. => rfl

theorem ofItems_moved : ∀ items, ofItems (Datum.movedItems m items) = ofItems items
  | [] => rfl
  | d :: rest => by rw [Datum.movedItems, ofItems, ofItems, ofDatum_moved d, ofItems_moved rest]

theorem ofEntries_moved : ∀ entries, ofEntries (Datum.movedEntries m entries) =
    (ofEntries entries).map fun e => (e.1.moved m, e.2)
  | [] => rfl
  | (k, d) :: rest => by
    rw [Datum.movedEntries, ofEntries, ofEntries, ofDatum_moved k, ofDatum_moved d, ofEntries_moved rest]
    rfl

end

end Layout

@[simp]
theorem Datum.pretty_moved (d : Datum) : (d.moved m).pretty = d.pretty := by
  rw [pretty, pretty, Layout.ofDatum_moved]

end Laid

namespace Datum

variable {m : Host.Move}

mutual

@[simp]
theorem dump_moved (indent : Int) : ∀ d : Datum, (d.moved m).dump indent = d.dump indent
  | .scalar s => by cases s <;> rfl
  | .list items => by
    simp only [moved, dump, length_movedItems, dumpItems_moved indent 0 items]
  | .tuple items => by
    simp only [moved, dump, length_movedItems, dumpItems_moved indent 0 items]
  | .set frozen items => by
    simp only [moved, dump, length_movedItems, dumpItems_moved indent 0 items]
  | .dict entries => by
    simp only [moved, dump, length_movedEntries, dumpEntries_moved indent entries]
  | .view entries => by
    simp only [moved, dump, length_movedEntries, dumpEntries_moved indent entries]
  | .other .. => rfl

theorem dumpItems_moved (indent : Int) (index : Nat) : ∀ items,
    dumpItems indent index (movedItems m items) = dumpItems indent index items
  | [] => rfl
  | d :: rest => by
    rw [movedItems, dumpItems, dumpItems, dump_moved (indent + 1) d, dumpItems_moved indent (index + 1) rest]

theorem dumpEntries_moved (indent : Int) : ∀ entries,
    dumpEntries indent (movedEntries m entries) = dumpEntries indent entries
  | [] => rfl
  | (k, d) :: rest => by
    rw [movedEntries, dumpEntries, dumpEntries, quoted_moved k, dump_moved (indent + 1) d,
      dumpEntries_moved indent rest]

end

end Datum

end BraceTemplate
