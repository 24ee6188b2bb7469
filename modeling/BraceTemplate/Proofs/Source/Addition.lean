import BraceTemplate.CommandLine.Disk
import BraceTemplate.Proofs.Source.Candidates
import BraceTemplate.Proofs.Source.History

namespace BraceTemplate

-- What a search makes of a path: it goes on where nothing is there, else it ends, with what is there or with
-- the refusal to look.
def FileSystem.settled? (fs : FileSystem) (path : Path) : Option (Except DiskError Path) :=
  match fs path with
  | .ok none => none
  | .ok (some _) => some (.ok path)
  | .error e => some (.error e)

namespace Registry

variable {α : Type} {root : Root} {roots : List Root} {f : Root → Option α}

-- A root that gives nothing changes no search.
theorem findSome?_rank_of_none (h : f root = none) : (rank root roots).findSome? f = roots.findSome? f := by
  induction roots with
  | nil => simp [rank, h]
  | cons first rest ih =>
      rw [rank]
      split
      · rw [List.findSome?_cons, ih, List.findSome?_cons]
      · rw [List.findSome?_cons, h]

-- Nor does one that stands behind the first root that gives something.
theorem findSome?_rank_of_le {winner : Root} (hwinner : roots.find? (fun x => (f x).isSome) = some winner)
    (h : root.priority ≤ winner.priority) (hranked : roots.Pairwise Root.Precedes) :
    (rank root roots).findSome? f = roots.findSome? f := by
  induction roots with
  | nil => simp at hwinner
  | cons first rest ih =>
      obtain ⟨hfirst, hrest⟩ := List.pairwise_cons.mp hranked
      have hle : root.priority ≤ first.priority := by
        rcases List.mem_cons.mp (List.mem_of_find?_eq_some hwinner) with rfl | hmem
        · exact h
        · rcases hfirst winner hmem with hlt | ⟨heq, -⟩ <;> omega
      rw [rank, if_pos hle, List.findSome?_cons, List.findSome?_cons]
      cases hgives : f first with
      | some result => rfl
      | none =>
          rw [List.find?_cons_of_neg (by simp [hgives])] at hwinner
          exact ih hwinner hrest

-- All that stands before a new root has at least its priority, so the new root is the first to give something
-- where no such root did.
theorem findSome?_rank_of_lt {result : α} (hroot : f root = some result)
    (h : ∀ winner, roots.find? (fun x => (f x).isSome) = some winner → winner.priority < root.priority) :
    (rank root roots).findSome? f = some result := by
  induction roots with
  | nil => simp [rank, hroot]
  | cons first rest ih =>
      rw [rank]
      split
      · next hle =>
          have hnone : f first = none := by
            by_contra hsome
            have := h first (List.find?_cons_of_pos (Option.isSome_iff_ne_none.mpr hsome))
            omega
          rw [List.findSome?_cons, hnone]
          exact ih fun winner hwinner => h winner (by rw [List.find?_cons_of_neg (by simp [hnone]), hwinner])
      · rw [List.findSome?_cons, hroot]

end Registry

namespace Resolver

-- Where a file is looked for under one root.
def placesUnder (r : Resolver) (file : Text) (directory : Path) : List Path :=
  (r.types ++ [defaultType]).map fun type => directory / type / (file ++ r.extension)

-- What a search under one root ends with, if it ends there.
def settledUnder? (r : Resolver) (fs : FileSystem) (file : Text) (directory : Path) :
    Option (Except DiskError Path) :=
  (r.placesUnder file directory).findSome? fs.settled?

-- The first root of a registry under which the search for a file ends.
def winner? (r : Resolver) (fs : FileSystem) (file name : Text) : Option Root :=
  (r.registry.roots name).find? fun root => (r.settledUnder? fs file root.directory).isSome

-- What a whole search comes to.
def conclude : Option (Except DiskError Path) → Except DiskError (Option Path)
  | none => .ok none
  | some result => result.map some

-- How paths were tried: all of them for nothing, or those up to the first that ends the search.
inductive Tried (fs : FileSystem) : List Path → List Path → Except DiskError (Option Path) → Prop where
  | all {paths} (hnone : ∀ path ∈ paths, fs.settled? path = none) : Tried fs paths paths (.ok none)
  | upTo {skipped path rest result} (hnone : ∀ other ∈ skipped, fs.settled? other = none)
      (hpath : fs.settled? path = some result) :
      Tried fs (skipped ++ path :: rest) (skipped ++ [path]) (result.map some)

section Search

variable {fs : FileSystem} {r : Resolver} {path : Path} {paths tried : List Path}
  {outcome : Except DiskError (Option Path)} {reference file name : Text}

theorem Tried.skip (hpath : fs.settled? path = none) (h : Tried fs paths tried outcome) :
    Tried fs (path :: paths) (path :: tried) outcome := by
  cases h with
  | all hnone => exact .all (List.forall_mem_cons.mpr ⟨hpath, hnone⟩)
  | upTo hnone hfound => exact .upTo (List.forall_mem_cons.mpr ⟨hpath, hnone⟩) hfound

theorem Tried.here {rest : List Path} {result : Except DiskError Path} (hpath : fs.settled? path = some result) :
    Tried fs (path :: rest) [path] (result.map some) :=
  @Tried.upTo fs [] path rest result (fun _ h => absurd h List.not_mem_nil) hpath

theorem Tried.outcome_eq (h : Tried fs paths tried outcome) :
    outcome = conclude (paths.findSome? fs.settled?) := by
  cases h with
  | all hnone => rw [List.findSome?_eq_none_iff.mpr hnone, conclude]
  | upTo hnone hpath => rw [List.findSome?_eq_some_iff.mpr ⟨_, _, _, rfl, hpath, hnone⟩, conclude]

theorem tried_probe (fs : FileSystem) (paths : List Path) :
    Tried fs paths (probe fs paths).1 ((probe fs paths).2.map (·.map (·.1))) := by
  induction paths with
  | nil => exact .all fun path hpath => absurd hpath List.not_mem_nil
  | cons path rest ih =>
      rw [probe]
      split
      · next h => exact ih.skip (by simp [FileSystem.settled?, h])
      · next h =>
          have hpath : fs.settled? path = some (.ok path) := by simp [FileSystem.settled?, h]
          exact .here hpath
      · next e h =>
          have hpath : fs.settled? path = some (.error e) := by simp [FileSystem.settled?, h]
          exact .here hpath

theorem findSome?_flatMap {α β γ : Type} (f : β → Option γ) (g : α → List β) (xs : List α) :
    (xs.flatMap g).findSome? f = xs.findSome? fun x => (g x).findSome? f := by
  induction xs with
  | nil => rfl
  | cons x rest ih =>
      rw [List.flatMap_cons, List.findSome?_append, ih, List.findSome?_cons]
      cases (g x).findSome? f <;> rfl

-- A search goes from root to root.
theorem resolve_eq (hparts : Reference.parts reference = (file, name)) (hfile : file ≠ []) (hname : name ≠ []) :
    r.resolve fs reference =
      conclude ((r.registry.roots name).findSome? fun root => r.settledUnder? fs file root.directory) := by
  have hcandidates : r.candidates reference =
      (r.registry.roots name).flatMap fun root => r.placesUnder file root.directory := by
    rw [candidates, hparts]
    simp [hfile, hname, placesUnder]
  have houtcome := (tried_probe fs (r.candidates reference)).outcome_eq
  rw [hcandidates, findSome?_flatMap, ← hcandidates] at houtcome
  exact houtcome

theorem winner?_eq_none (hresolve : r.resolve fs reference = .ok none)
    (hparts : Reference.parts reference = (file, name)) (hfile : file ≠ []) (hname : name ≠ []) :
    r.winner? fs file name = none := by
  rw [resolve_eq hparts hfile hname] at hresolve
  cases hfound : (r.registry.roots name).findSome? fun root => r.settledUnder? fs file root.directory with
  | none => simpa [winner?] using hfound
  | some result => rw [hfound] at hresolve; cases result <;> cases hresolve

theorem candidates_congr {other : Resolver} (htypes : other.types = r.types) (hextension : other.extension = r.extension)
    (hroots : other.registry.roots (Reference.parts reference).2 = r.registry.roots (Reference.parts reference).2) :
    other.candidates reference = r.candidates reference := by
  simp only [candidates, htypes, hextension, hroots]

end Search

-- What another root changes. A reference that names another registry is resolved as before. One that names
-- the root's own is resolved under the new root if the search ends there and did not end before, or ended
-- under a root of lower priority; else it is resolved as before. Paths are tried up to the first that ends
-- the search.
theorem resolve_add (changes : List Registry.Change) (types : List Text) (extension : Text) (fs : FileSystem)
    (name : Text) (directory : Path) (priority : Int) (reference : Text) :
    let before : Resolver := ⟨.after changes, types, extension⟩
    let later : Resolver := ⟨.after (changes ++ [.add name directory priority]), types, extension⟩
    Tried fs (before.candidates reference) (probe fs (before.candidates reference)).1
        (before.resolve fs reference) ∧
      ((Reference.parts reference).2 ≠ name → later.resolve fs reference = before.resolve fs reference) ∧
      ∀ file, Reference.parts reference = (file, name) → file ≠ [] → name ≠ [] →
        (∀ result, before.settledUnder? fs file directory = some result →
          (before.resolve fs reference = .ok none ∨
            ∃ winner, before.winner? fs file name = some winner ∧ winner.priority < priority) →
          later.resolve fs reference = result.map some) ∧
        ((before.settledUnder? fs file directory = none ∨
            ∃ winner, before.winner? fs file name = some winner ∧ priority ≤ winner.priority) →
          later.resolve fs reference = before.resolve fs reference) := by
  intro before later
  have hroots : ∀ other, later.registry.roots other =
      if other = name then Registry.rank ⟨directory, priority, (Registry.after changes).added⟩
        (before.registry.roots name) else before.registry.roots other := by
    intro other
    show (Registry.after (changes ++ [.add name directory priority])).roots other = _
    rw [Registry.after_append]
    exact Registry.roots_add ..
  refine ⟨tried_probe fs _, fun hother => ?_, fun file hparts hfile hname => ?_⟩
  · have hcandidates : later.candidates reference = before.candidates reference :=
      candidates_congr rfl rfl ((hroots _).trans (if_neg hother))
    show (probe fs (later.candidates reference)).2.map _ = (probe fs (before.candidates reference)).2.map _
    rw [hcandidates]
  · rw [resolve_eq hparts hfile hname (r := later), hroots, if_pos rfl]
    constructor
    · intro result hresult hbefore
      refine congrArg conclude (Registry.findSome?_rank_of_lt hresult fun winner hwinner => ?_)
      rcases hbefore with hnone | ⟨winner', hwinner', hlt⟩
      · cases hwinner.symm.trans (winner?_eq_none hnone hparts hfile hname)
      · cases hwinner.symm.trans hwinner'
        exact hlt
    · intro hbefore
      rw [resolve_eq hparts hfile hname (r := before)]
      rcases hbefore with hnone | ⟨winner, hwinner, hle⟩
      · exact congrArg conclude (Registry.findSome?_rank_of_none hnone)
      · exact congrArg conclude (Registry.findSome?_rank_of_le hwinner hle
          ((Registry.recorded_after changes).ranked name))

-- Two roots of one priority, the earlier one with a file in a type's directory only.
def shared : List Registry.Change :=
  [.add "main".toList (.ofText "/a".toList) 1, .add "main".toList (.ofText "/b".toList) 1]

def sharedFiles : FileSystem :=
  .ofFiles ((Files.empty.write (.ofText "/a/dark/p.html".toList) []).write
    (.ofText "/c/default/p.html".toList) []).read?

-- A root of the winner's priority is no winner, and one of a higher priority is, also by its default type.
theorem resolve_add_tie :
    let types := ["dark".toList]
    let before : Resolver := ⟨.after shared, types, defaultExtension⟩
    let added (priority : Int) : Resolver :=
      ⟨.after (shared ++ [.add "main".toList (.ofText "/c".toList) priority]), types, defaultExtension⟩
    Reference.parts "p@main".toList = ("p".toList, "main".toList) ∧
      (before.winner? sharedFiles "p".toList "main".toList).map (·.priority) = some 1 ∧
      before.resolve sharedFiles "p@main".toList = .ok (some (.ofText "/a/dark/p.html".toList)) ∧
      (added 1).resolve sharedFiles "p@main".toList = .ok (some (.ofText "/a/dark/p.html".toList)) ∧
      (added 2).resolve sharedFiles "p@main".toList = .ok (some (.ofText "/c/default/p.html".toList)) := by
  intro types before added
  have hparts : Reference.parts "p@main".toList = ("p".toList, "main".toList) := by decide
  have hwinner : before.winner? sharedFiles "p".toList "main".toList =
      some ⟨.ofText "/a".toList, 1, 0⟩ := by decide +kernel
  have hresolve : before.resolve sharedFiles "p@main".toList = .ok (some (.ofText "/a/dark/p.html".toList)) := rfl
  have htie := resolve_add shared types defaultExtension sharedFiles "main".toList (.ofText "/c".toList) 1
    "p@main".toList
  have hhigher := resolve_add shared types defaultExtension sharedFiles "main".toList (.ofText "/c".toList) 2
    "p@main".toList
  refine ⟨hparts, by rw [hwinner]; rfl, hresolve, ?_, ?_⟩
  · exact ((htie.2.2 _ hparts (by decide) (by decide)).2 (.inr ⟨_, hwinner, by decide⟩)).trans hresolve
  · exact (hhigher.2.2 _ hparts (by decide) (by decide)).1 (.ok (.ofText "/c/default/p.html".toList)) rfl
      (.inr ⟨_, hwinner, by decide⟩)

-- A file name that is too long for the disk.
def longFile : Text :=
  List.replicate 300 'n'

-- There is no file under a new root, and yet the search comes to another end, for to look for it is refused.
theorem resolve_add_departs :
    let fs := ((Disk.empty ["w".toList]).putDirectory ["w".toList, "t".toList, "default".toList]).files
    let before : Resolver := ⟨.after [], [], defaultExtension⟩
    let later : Resolver := ⟨.after [.add "main".toList (.ofText "t".toList) 0], [], defaultExtension⟩
    let path := Path.ofText "t/default/".toList / (longFile ++ defaultExtension)
    Reference.parts (longFile ++ "@main".toList) = (longFile, "main".toList) ∧
      before.placesUnder longFile (.ofText "t".toList) = [path] ∧
      fs path = .error ⟨.nameTooLong, path⟩ ∧
      before.resolve fs (longFile ++ "@main".toList) = .ok none ∧
      later.resolve fs (longFile ++ "@main".toList) = .error ⟨.nameTooLong, path⟩ := by
  refine ⟨by decide +kernel, by decide +kernel, by decide +kernel, by decide +kernel, by decide +kernel⟩

end Resolver

end BraceTemplate
