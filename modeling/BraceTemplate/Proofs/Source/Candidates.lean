import BraceTemplate.Compile.Compiler
import BraceTemplate.Proofs.Tree.Names

namespace BraceTemplate

namespace Path

-- A text that names one directory or file, and is no way to one.
structure IsName (name : Text) : Prop where
  ne_nil : name ≠ []
  ne_dot : name ≠ ['.']
  not_mem : '/' ∉ name

-- What is found by going down from a directory, name after name.
def within (directory : Path) (names : List Text) : Path :=
  ⟨directory.root, directory.names ++ names⟩

variable {s name : Text}

theorem splitRoot_of_relative (h : s.head? ≠ some '/') : splitRoot s = ([], s) := by
  unfold splitRoot
  split
  · exact absurd rfl h
  · exact absurd rfl h
  · exact absurd rfl h
  · rfl

theorem isAbsolute_of_head? (h : s.head? = some '/') : (ofText s).isAbsolute = true := by
  obtain ⟨rest, rfl⟩ : ∃ rest, s = '/' :: rest := by
    cases s with
    | nil => simp at h
    | cons c rest => exact ⟨rest, by rw [Option.some.inj h]⟩
  have hroot : (splitRoot ('/' :: rest)).1 ≠ [] := by
    unfold splitRoot
    split <;> simp_all
  simpa [isAbsolute, ofText] using hroot

theorem ofText_of_isName (h : IsName name) : ofText name = ⟨[], [name]⟩ := by
  have hhead : name.head? ≠ some '/' := fun hhead => h.not_mem (List.mem_of_mem_head? hhead)
  have hname : (!name.isEmpty && name != ['.']) = true := by
    simp [h.ne_nil, h.ne_dot]
  simp only [ofText, splitRoot_of_relative hhead, Text.split_eq_singleton h.not_mem, List.filter, hname]

theorem div_of_relative (directory : Path) (h : s.head? ≠ some '/') :
    directory / s = directory.within (ofText s).names := by
  have hrelative : (ofText s).isAbsolute = false := by
    simp [isAbsolute, ofText, splitRoot_of_relative h]
  show append directory (ofText s) = _
  rw [append, hrelative]
  rfl

theorem div_of_absolute (directory : Path) (h : s.head? = some '/') : directory / s = ofText s := by
  show append directory (ofText s) = _
  rw [append, isAbsolute_of_head? h, if_pos rfl]

theorem div_of_isName (directory : Path) (h : IsName name) : directory / name = directory.within [name] := by
  have hhead : name.head? ≠ some '/' := fun hhead => h.not_mem (List.mem_of_mem_head? hhead)
  rw [div_of_relative directory hhead, ofText_of_isName h]

theorem within_within (directory : Path) (names names' : List Text) :
    (directory.within names).within names' = directory.within (names ++ names') := by
  simp only [within, List.append_assoc]

end Path

namespace Resolver

variable {r : Resolver} {reference : Text} {path : Path}

-- Where a reference is looked for under a root: below the root, in the directory of a type; but a file part
-- that starts with a slash is a way of its own.
def place (r : Resolver) (reference : Text) (root : Root) (type : Text) : Path :=
  let file := (Reference.parts reference).1
  if file.head? = some '/' then .ofText (file ++ r.extension)
  else root.directory.within (type :: (Path.ofText (file ++ r.extension)).names)

theorem isName_defaultType : Path.IsName defaultType :=
  ⟨by decide, by decide, by decide⟩

theorem div_div_eq_place (root : Root) {type : Text} (htype : Path.IsName type)
    (hfile : (Reference.parts reference).1 ≠ []) :
    root.directory / type / ((Reference.parts reference).1 ++ r.extension) = r.place reference root type := by
  have hhead : ((Reference.parts reference).1 ++ r.extension).head? = (Reference.parts reference).1.head? := by
    obtain ⟨c, rest, hcons⟩ := List.exists_cons_of_ne_nil hfile
    rw [hcons]
    rfl
  unfold place
  dsimp only
  split
  · next h => rw [Path.div_of_absolute _ (hhead.trans h)]
  · next h =>
      rw [Path.div_of_relative _ (hhead ▸ h), Path.div_of_isName _ htype, Path.within_within]
      rfl

-- Every path at which a reference is looked for, in the order in which they are tried.
theorem candidates_eq (htypes : ∀ type ∈ r.types, Path.IsName type) (reference : Text) :
    r.candidates reference =
      if (Reference.parts reference).1 = [] ∨ (Reference.parts reference).2 = [] then []
      else (r.registry.roots (Reference.parts reference).2).flatMap fun root =>
        (r.types ++ [defaultType]).map (r.place reference root) := by
  have hnames : ∀ type ∈ r.types ++ [defaultType], Path.IsName type := by
    intro type htype
    rcases List.mem_append.mp htype with h | h
    · exact htypes type h
    · exact List.mem_singleton.mp h ▸ isName_defaultType
  unfold candidates
  simp only [Bool.or_eq_true, List.isEmpty_iff]
  split
  · rfl
  · next h =>
      refine congrArg (List.flatMap · _) (funext fun root => List.map_congr_left fun type htype => ?_)
      exact div_div_eq_place root (hnames type htype) fun hfile => h (.inl hfile)

theorem probe_prefix (fs : FileSystem) (paths : List Path) : (probe fs paths).1 <+: paths := by
  induction paths with
  | nil => exact List.prefix_rfl
  | cons path rest ih =>
      rw [probe]
      split
      · exact (List.prefix_cons_inj path).mpr ih
      · exact ⟨rest, rfl⟩
      · exact ⟨rest, rfl⟩

theorem mem_of_probe (fs : FileSystem) {paths : List Path} {content : Bytes}
    (h : (probe fs paths).2 = .ok (some (path, content))) : path ∈ (probe fs paths).1 := by
  induction paths with
  | nil => simp [probe] at h
  | cons first rest ih =>
      rw [probe] at h ⊢
      split at h
      · exact List.mem_cons_of_mem _ (ih h)
      · simp_all
      · simp at h

-- Nothing is looked for but below a root, in the directory of a type, unless the file part starts with a
-- slash; and what is found is what was looked for.
theorem candidates_place (htypes : ∀ type ∈ r.types, Path.IsName type) (fs : FileSystem) (reference : Text) :
    (∀ path ∈ r.candidates reference, ∃ root ∈ r.registry.roots (Reference.parts reference).2,
      ∃ type ∈ r.types ++ [defaultType], path = r.place reference root type) ∧
    (probe fs (r.candidates reference)).1 <+: r.candidates reference ∧
    ∀ path content, r.find fs reference = .ok (some (path, content)) →
      path ∈ (probe fs (r.candidates reference)).1 := by
  refine ⟨fun path hpath => ?_, probe_prefix fs _, fun path content => mem_of_probe fs⟩
  rw [candidates_eq htypes] at hpath
  split at hpath
  · exact absurd hpath List.not_mem_nil
  · obtain ⟨root, hroot, hpath⟩ := List.mem_flatMap.mp hpath
    obtain ⟨type, htype, rfl⟩ := List.mem_map.mp hpath
    exact ⟨root, hroot, type, htype, rfl⟩

-- A registry with one root.
def oneRoot : Resolver :=
  make (Registry.empty.add "main".toList (.ofText "/t".toList) 0) defaultExtension ["dark".toList]

-- Dots do not lead out of a root by themselves: they are names like others, for the disk to follow.
theorem candidates_place_dots :
    (∀ type ∈ oneRoot.types, Path.IsName type) ∧
    oneRoot.candidates "../a//b@main".toList =
      [⟨['/'], ["t".toList, "dark".toList, "..".toList, "a".toList, "b.html".toList]⟩,
        ⟨['/'], ["t".toList, "default".toList, "..".toList, "a".toList, "b.html".toList]⟩] ∧
    ∀ path ∈ oneRoot.candidates "../a//b@main".toList, ∃ root ∈ oneRoot.registry.roots "main".toList,
      ∃ type ∈ oneRoot.types ++ [defaultType], path = oneRoot.place "../a//b@main".toList root type := by
  have htypes : ∀ type ∈ oneRoot.types, Path.IsName type := by
    intro type htype
    obtain rfl : type = "dark".toList := List.mem_singleton.mp htype
    exact ⟨by decide, by decide, by decide⟩
  exact ⟨htypes, by decide, (candidates_place htypes (fun _ => .ok none) "../a//b@main".toList).1⟩

-- A file part that starts with a slash is looked for outside of all roots, and what is there is read: also
-- where a tag of a template asks for it.
theorem candidates_place_departs :
    let secret := Path.ofText "/etc/secret.html".toList
    let fs := FileSystem.ofFiles (Files.empty.write secret (Utf8.encode "x".toList)).read?
    oneRoot.candidates "/etc/secret@main".toList = [secret, secret] ∧
      (∀ root ∈ oneRoot.registry.roots "main".toList, ¬ root.directory.names <+: secret.names) ∧
      oneRoot.read fs "/etc/secret@main".toList = .ok "x".toList ∧
      (⟨oneRoot, defaultMaxDepth, [], defaultRoom⟩ : Compiler).compile fs
        "\x7binclude /etc/secret@main\x7d".toList = .ok "x".toList := by
  refine ⟨by decide, by decide, rfl, rfl⟩

end Resolver

end BraceTemplate
