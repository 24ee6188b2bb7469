import BraceTemplate.Proofs.Engine.Transparent
import Mathlib.Data.List.Forall2

namespace BraceTemplate

namespace Cache

-- Characters that are all the same in a key.
def isFolded (c : Char) : Bool :=
  isUnsafe c || c == '_'

theorem folded_eq_iff {c d : Char} :
    ((if isUnsafe c then '_' else c) = if isUnsafe d then '_' else d) ↔
      c = d ∨ isFolded c = true ∧ isFolded d = true := by
  have hself : isUnsafe '_' = false := by decide
  unfold isFolded
  cases hc : isUnsafe c <;> cases hd : isUnsafe d
  · simp only [Bool.false_eq_true, if_false, Bool.false_or, beq_iff_eq]
    exact ⟨.inl, fun h => h.elim id fun h => h.1.trans h.2.symm⟩
  · have hne : c ≠ d := fun h => by simp [h, hd] at hc
    simp [hne]
  · have hne : c ≠ d := fun h => by simp [h, hd] at hc
    simp only [Bool.false_eq_true, if_true, if_false, Bool.true_or, Bool.false_or, beq_iff_eq, hne,
      false_or, true_and]
    exact eq_comm
  · simp

-- Names have the same key when they differ in such characters only.
theorem keyOf_eq_iff {x y : Text} : keyOf x = keyOf y ↔
    List.Forall₂ (fun c d => c = d ∨ isFolded c = true ∧ isFolded d = true) x y := by
  unfold keyOf
  rw [List.map_append, List.map_append, List.append_cancel_left_eq, ← List.forall₂_eq_eq_eq,
    List.forall₂_map_left_iff, List.forall₂_map_right_iff]
  simp only [folded_eq_iff]

end Cache

namespace Shelf

-- What a shelf that starts out empty fetches for the second of two names: what was made for the first
-- one where that has been kept under the same key, and else what is made for the second one.
theorem fetches_second (debug : Bool) (first second : Text)
    (make make' : Unit → Except CompileError Text) :
    Fetches ((fetch ⟨some .empty, debug⟩ first make).2.fetch second make').1
      (if Cache.keyOf first = Cache.keyOf second ∧ debug = false ∧ (make ()).isOk then make ()
      else make' ()) := by
  cases debug with
  | true =>
      obtain ⟨-, hstays⟩ := fetches_of_inactive (s := ⟨some .empty, true⟩) rfl first make
      rw [hstays, if_neg (by simp)]
      exact (fetches_of_inactive rfl second make').1
  | false =>
      cases hmake : make () with
      | error e =>
          have hstays : (fetch ⟨some .empty, false⟩ first make).2 = ⟨some .empty, false⟩ := by
            simp [fetch, lookUp, active, Cache.get?, Cache.empty, Cache.find?, hmake]
          rw [hstays, if_neg (by simp [Except.isOk, Except.toBool])]
          exact (fetches_of_keeps _ rfl Cache.willing_empty
            (Cache.keeps_empty fun _ text => make' () = .ok text) fun _ => Iff.rfl).1
      | ok text =>
          have hkept : (fetch ⟨some .empty, false⟩ first make).2 =
              ⟨some ⟨[(Cache.keyOf first, .str text)], false, false⟩, false⟩ := by
            simp [fetch, lookUp, keep, active, Cache.get?, Cache.set, Cache.insert, Cache.empty,
              Cache.find?, hmake]
          rw [hkept]
          by_cases hkey : Cache.keyOf first = Cache.keyOf second
          · rw [if_pos ⟨hkey, rfl, rfl⟩]
            refine (fetches_of_get? rfl ?_ make').1
            simp [Cache.get?, Cache.find?, hkey, Datum.str]
          · rw [if_neg fun h => hkey h.1]
            have hkeeps : Cache.Keeps ⟨[(Cache.keyOf first, .str text)], false, false⟩ fun key t =>
                key = Cache.keyOf first ∨ make' () = .ok t := by
              intro key value hfind
              by_cases h : Cache.keyOf first = key
              · obtain rfl : .str text = value := by simpa [Cache.find?, h] using hfind
                exact ⟨text, rfl, .inl h.symm⟩
              · simp [Cache.find?, h] at hfind
            exact (fetches_of_keeps _ rfl ⟨rfl, rfl⟩ hkeeps fun t =>
              ⟨fun h => h.resolve_left (Ne.symm hkey), .inr⟩).1

end Shelf

namespace Engine

-- The file that is shown for the second one of two references when the first one has been shown before.
def servedAfter (e : Engine) (fs : FileSystem) (first second : Text) : Text :=
  if Cache.keyOf first = Cache.keyOf second ∧ e.shelf.debug = false ∧ (e.compileFile fs first).isOk then
    first
  else second

theorem answers_pair (e : Engine) (fs : FileSystem) (a b : Call) :
    (e.answers fs [a, b]).1 = [(e.answer fs a).1, ((e.answer fs a).2.answer fs b).1] := rfl

-- What an engine with an empty cache fetches for the second one of two references.
theorem fetches_servedAfter {e e' : Engine} {fs : FileSystem} {first : Text}
    (hcompiler : e'.compiler = e.compiler)
    (hshelf : e'.shelf = (Shelf.fetch ⟨some .empty, e.shelf.debug⟩ first fun _ => e.compileFile fs first).2)
    (second : Text) :
    Shelf.Fetches (e'.shelf.fetch second fun _ => e'.make fs (.file second)).1
      (e'.make fs (.file (e.servedAfter fs first second))) := by
  rw [make_congr fs hcompiler, hshelf]
  have hserved : e.make fs (.file (e.servedAfter fs first second)) =
      if Cache.keyOf first = Cache.keyOf second ∧ e.shelf.debug = false ∧ (e.compileFile fs first).isOk
      then e.compileFile fs first else e.compileFile fs second := by
    unfold servedAfter
    split <;> rfl
  rw [hserved]
  exact Shelf.fetches_second e.shelf.debug first second (fun _ => e.compileFile fs first)
    fun _ => e.compileFile fs second

-- Two files shown one after the other: the second one is itself, unless its key is that of a first one
-- that has been kept.
theorem answers_two_files (e : Engine) (fs : FileSystem) (first second : Text)
    (data data' : List (Datum × Datum)) :
    ((e.setCache (some .empty)).answers fs
        [.render (.file first) data [], .render (.file second) data' []]).1 =
      ((e.setCache none).answers fs
        [.render (.file first) data [], .render (.file (e.servedAfter fs first second)) data' []]).1 := by
  have hfetch : Shelf.Fetches ((e.setCache (some .empty)).shelf.fetch first
      fun _ => (e.setCache (some .empty)).make fs (.file first)).1
      ((e.setCache (some .empty)).make fs (.file first)) :=
    (Shelf.fetches_of_keeps _ rfl Cache.willing_empty
      (Cache.keeps_empty fun _ text => e.compileFile fs first = .ok text) fun _ => Iff.rfl).1
  have hanswer : (e.setCache none).answer fs (.render (.file first) data []) = _ :=
    answer_of_fetches (.file first) (.file first) [] data hfetch []
  obtain ⟨hshelf, hcompiler⟩ := answer_fetched (.file first) [] data hfetch
  have hanswer' := answer_of_fetches (.file second) (.file (e.servedAfter fs first second)) [] data'
    (fetches_servedAfter hcompiler hshelf second) []
  rw [answers_pair, answers_pair, hanswer, hanswer']

-- A file in a directory and one with an underscore in its place have the same key, and the first one is
-- shown for both.
theorem answers_two_files_folded :
    let e := (ofSettings .default none).addPath "main".toList (.ofText "/t".toList) 0
    let fs := FileSystem.ofFiles ((Files.empty.write (.ofText "/t/default/a_b.html".toList)
      (Utf8.encode "x".toList)).write (.ofText "/t/default/a/b.html".toList)
      (Utf8.encode "y".toList)).read?
    let calls := [Call.render (.file "a_b@main".toList) [] [], .render (.file "a/b@main".toList) [] []]
    e.resolve fs "a_b@main".toList = .ok (some (.ofText "/t/default/a_b.html".toList)) ∧
      e.resolve fs "a/b@main".toList = .ok (some (.ofText "/t/default/a/b.html".toList)) ∧
      ((e.setCache none).answers fs calls).1 =
        [.rendered ⟨.ok ['x'], []⟩, .rendered ⟨.ok ['y'], []⟩] ∧
      ((e.setCache (some .empty)).answers fs calls).1 =
        [.rendered ⟨.ok ['x'], []⟩, .rendered ⟨.ok ['x'], []⟩] := by
  exact ⟨rfl, rfl, rfl, rfl⟩

end Engine

end BraceTemplate
