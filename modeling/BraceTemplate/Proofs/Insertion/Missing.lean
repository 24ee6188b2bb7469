import BraceTemplate.Proofs.Insertion.Inline
import BraceTemplate.Proofs.Insertion.Trail

namespace BraceTemplate

open Text Segment

-- Characters of one byte are read as they were written.
theorem Utf8.decode?_encode {s : Text} (h : ∀ c ∈ s, c.toNat < 128) :
    decode? (encode s) = some s := by
  induction s with
  | nil => rfl
  | cons c s ih =>
      obtain ⟨hc, hs⟩ := List.forall_mem_cons.mp h
      have hbyte : (byte c.toNat).toNat = c.toNat := by
        simp only [byte, UInt8.toNat_ofNat']
        omega
      have hencode : encode (c :: s) = byte c.toNat :: encode s := by
        simp [encode, encodeChar, hc]
      have ih := ih hs
      rw [decode?] at ih ⊢
      rw [hencode, decodeFrom, hbyte, if_pos hc, ih, Char.ofNat_toNat]
      rfl

namespace Compiler

variable {c : Compiler} {fs : FileSystem}

-- Whether there is a file behind a reference.
def resolves (c : Compiler) (fs : FileSystem) (reference : Text) : Bool :=
  match c.resolver.resolve fs reference with
  | .ok (some _) => true
  | _ => false

theorem resolves_of_read {reference file : Text} (h : c.resolver.read fs reference = .ok file) :
    c.resolves fs reference = true := by
  rw [Resolver.read] at h
  split at h
  · cases h
  · cases h
  · next hfind =>
    rw [resolves, Resolver.resolve, hfind]
    rfl

-- Where each file that is found has a text, only a reference without one is an obstacle.
theorem obstacle?_cases (hfound : ∀ reference path content,
    c.resolver.find fs reference = .ok (some (path, content)) → (Utf8.decode? content).isSome = true)
    (reference : Text) :
    (c.resolves fs reference = true ∧ c.obstacle? fs reference = none) ∨
      (c.resolver.resolve fs reference = .ok none ∧ c.resolves fs reference = false ∧
        c.obstacle? fs reference = some (.unreadable (.notFound reference))) ∨
      ∃ refusal, c.resolver.resolve fs reference = .error refusal ∧
        c.resolves fs reference = false ∧
        c.obstacle? fs reference = some (.unreadable (.refused refusal)) := by
  cases hfind : c.resolver.find fs reference with
  | error refusal =>
      refine .inr (.inr ⟨refusal, ?_, ?_, ?_⟩) <;>
        simp [resolves, obstacle?, Resolver.resolve, Resolver.read, hfind, Except.map]
  | ok found =>
      cases found with
      | none =>
          refine .inr (.inl ⟨?_, ?_, ?_⟩) <;>
            simp [resolves, obstacle?, Resolver.resolve, Resolver.read, hfind, Except.map]
      | some found =>
          obtain ⟨path, content⟩ := found
          obtain ⟨text, htext⟩ := Option.isSome_iff_exists.mp (hfound reference path content hfind)
          refine .inl ⟨?_, ?_⟩ <;>
            simp [resolves, obstacle?, Resolver.resolve, Resolver.read, hfind, Except.map, htext]

theorem regular_of_read (hfiles : ∀ reference path content,
    c.resolver.find fs reference = .ok (some (path, content)) →
      ∃ file, Utf8.decode? content = some file ∧ file.Regular)
    {reference file : Text} (h : c.resolver.read fs reference = .ok file) : file.Regular := by
  rw [Resolver.read] at h
  split at h
  · cases h
  · cases h
  · next path content hfind =>
    obtain ⟨text, htext, hregular⟩ := hfiles reference path content hfind
    rw [htext] at h
    cases h
    exact hregular

-- What comes of a compilation whose steps end so.
theorem compile_of_ends {p : Text → Prop} {s : Text} {failure : Option CompileError}
    (h : Ends p (c.rewriteAt fs (min c.maxDepth.toNat c.room) s) failure) :
    (failure = none → ∃ t, c.compile fs s = .ok t) ∧
      ∀ e, failure = some e → c.compile fs s = .error e := by
  cases failure with
  | none =>
      obtain ⟨x, hx, -⟩ := h
      exact ⟨fun _ => ⟨x, by rw [compile, hx]; rfl⟩, by simp⟩
  | some e =>
      refine ⟨by simp, fun e' he => ?_⟩
      cases he
      rw [compile, show c.rewriteAt fs _ s = throw e from h]
      rfl

-- A page that lists a file, and a file that lists two more; of all these two are missing.
def gapFiles : Files :=
  ((Files.empty.write (.ofText "t/default/a.html".toList)
    (Utf8.encode "\x7bif $x\x7d\x7binclude n,b@t\x7d\x7b/if\x7d".toList)).write
    (.ofText "t/default/b.html".toList) (Utf8.encode "\x7binclude lost@t\x7d".toList)).write
    (.ofText "t/default/n.html".toList) (Utf8.encode "\x7b$y.0\x7d".toList)

-- Files of which each inserts the next one, more of them than there is room for.
def chainName (k : Nat) : Text :=
  natText k ++ "@t".toList

def chainText (k : Nat) : Text :=
  if k < 200 then Tag.insertionTag (chainName (k + 1)) else "x".toList

def chainPath (k : Nat) : Path :=
  .ofText ("t/default/".toList ++ natText k ++ ".html".toList)

-- The number that a file is named by.
def chainNumber (path : Path) : Nat :=
  (path.text.filter (·.isDigit)).foldl (fun n c => n * 10 + (c.toNat - '0'.toNat)) 0

def chainFiles : FileSystem := fun path =>
  .ok (if chainNumber path ≤ 200 ∧ path = chainPath (chainNumber path) then
    some (Utf8.encode (chainText (chainNumber path))) else none)

def chainCompiler : Compiler :=
  nestedCompiler.within 1000

theorem insertions_insertionTag {list : Text} (h : ∀ l ∈ list, Tag.isListChar l = true) :
    insertions (Tag.insertionTag list) = [list] := by
  have hbare := bare_insertionTag h
  rw [← Tag.spellAll_insertionTag] at hbare ⊢
  rw [insertions_spellAll (Tag.soundAll_insertionTag h) hbare,
    lists_of_read (Tag.readInsertion_list h)]

theorem regular_insertionTag {list : Text} (h : ∀ l ∈ list, Tag.isListChar l = true)
    (hascii : ∀ l ∈ list, l.toNat < 128) : Regular (Tag.insertionTag list) := by
  refine ⟨bare_insertionTag h, ?_, ?_⟩
  · have hword : ∀ l ∈ "include ".toList, l.toNat < 128 := by decide
    intro l hl
    simp only [Tag.insertionTag, List.mem_cons, List.mem_append, List.not_mem_nil, or_false] at hl
    rcases hl with rfl | (hl | hl) | rfl
    · decide
    · exact hword l hl
    · exact hascii l hl
    · decide
  · rw [← Tag.spellAll_insertionTag, indexed_spellAll_iff (Tag.soundAll_insertionTag h)]
    rintro body tag (_ | ⟨_, hm⟩) hr
    · cases hr
    · cases hm

theorem chain_step {k : Nat} (hk : k ≤ 200) :
    (∀ l ∈ chainName k, Tag.isListChar l = true ∧ l.toNat < 128) ∧
      Reference.ofList (chainName k) = [chainName k] ∧
      chainCompiler.resolver.candidates (chainName k) = [chainPath k] ∧
      chainNumber (chainPath k) = k := by
  have hall : ∀ k < 201, (∀ l ∈ chainName k, Tag.isListChar l = true ∧ l.toNat < 128) ∧
      Reference.ofList (chainName k) = [chainName k] ∧
      chainCompiler.resolver.candidates (chainName k) = [chainPath k] ∧
      chainNumber (chainPath k) = k := by
    decide +kernel
  exact hall k (Nat.lt_succ_of_le hk)

theorem regular_chainText {k : Nat} (hk : k ≤ 200) : (chainText k).Regular := by
  rw [chainText]
  split
  · next hlt =>
    obtain ⟨hname, -⟩ := chain_step (show k + 1 ≤ 200 by omega)
    exact regular_insertionTag (fun l hl => (hname l hl).1) fun l hl => (hname l hl).2
  · decide

theorem read_chainName {k : Nat} (hk : k ≤ 200) :
    chainCompiler.resolver.read chainFiles (chainName k) = .ok (chainText k) := by
  obtain ⟨-, -, hcandidates, hnumber⟩ := chain_step hk
  have hfile : chainFiles (chainPath k) = .ok (some (Utf8.encode (chainText k))) := by
    rw [chainFiles, hnumber, if_pos ⟨hk, rfl⟩]
  have hdecode := Utf8.decode?_encode (regular_chainText hk).ascii
  simp only [Resolver.read, Resolver.find, hcandidates, Resolver.probe, hfile, hdecode]

theorem insertions_chainText (k : Nat) :
    insertions (chainText k) = if k < 200 then [chainName (k + 1)] else [] := by
  rw [chainText]
  split
  · next hlt => exact insertions_insertionTag fun l hl => ((chain_step hlt).1 l hl).1
  · rfl

theorem behind_chainName {k : Nat} (hk : k ≤ 200) :
    chainCompiler.behind chainFiles (Reference.ofList (chainName k)) = [chainText k] := by
  obtain ⟨-, hlist, -⟩ := chain_step hk
  simp [behind, hlist, read_chainName hk, Except.toOption]

theorem nests_chainText {k depth : Nat} (hk : k ≤ 200) (hdepth : 200 ≤ k + depth) :
    chainCompiler.nests chainFiles depth (chainText k) = true := by
  induction depth generalizing k with
  | zero =>
      rw [nests, insertions_chainText k, if_neg (by omega)]
      rfl
  | succ depth ih =>
      rw [nests, insertions_chainText k]
      split
      · next hlt =>
        simp only [List.all_cons, List.all_nil, Bool.and_true, behind_chainName hlt]
        exact ih hlt (by omega)
      · rfl

theorem exists_of_lists_chainText {s reference : Text}
    (h : chainCompiler.Lists chainFiles s reference) {k : Nat} (hk : k ≤ 200) (hs : s = chainText k) :
    ∃ j ≤ 200, reference = chainName j := by
  induction h generalizing k with
  | @own s list reference hlist hm =>
      subst hs
      rw [insertions_chainText k] at hlist
      split at hlist
      · next hlt =>
        obtain rfl := List.mem_singleton.mp hlist
        rw [(chain_step hlt).2.1, List.mem_singleton] at hm
        exact ⟨k + 1, hlt, hm⟩
      · cases hlist
  | @inner s list reference file other hlist hm hread _ ih =>
      subst hs
      rw [insertions_chainText k] at hlist
      split at hlist
      · next hlt =>
        obtain rfl := List.mem_singleton.mp hlist
        rw [(chain_step hlt).2.1, List.mem_singleton] at hm
        subst hm
        rw [read_chainName hlt] at hread
        exact ih hlt (Except.ok.inj hread).symm
      · cases hlist

theorem readAll_chainName {k : Nat} (hk : k ≤ 200) :
    chainCompiler.readAll chainFiles (Reference.ofList (chainName k)) = .ok (chainText k) := by
  obtain ⟨-, hlist, -⟩ := chain_step hk
  rw [hlist, readAll, read_chainName hk]
  exact congrArg Except.ok (List.append_nil _)

theorem rewriteAt_chainText_eq {k : Nat} (hk : k < 200) (depth : Nat) :
    chainCompiler.rewriteAt chainFiles depth (chainText k) =
      chainCompiler.insertAt chainFiles depth (Reference.ofList (chainName (k + 1))) >>= fun s =>
        liftM (chainCompiler.finish s) := by
  rw [chainText, if_pos hk]
  exact rewriteAt_insertionTag (fun l hl => ((chain_step hk).1 l hl).1) depth

-- Where the chain goes on beyond some depth, it is cut off there.
theorem rewriteAt_chainText {k depth : Nat} (h : k + depth < 200) :
    chainCompiler.rewriteAt chainFiles depth (chainText k) = throw .outOfRoom := by
  induction depth generalizing k with
  | zero =>
      rw [rewriteAt_chainText_eq (by omega)]
      rfl
  | succ depth ih =>
      rw [rewriteAt_chainText_eq (by omega), insertAt_of_readAll (readAll_chainName (by omega)),
        ih (by omega)]
      rfl

theorem exists_of_chainFiles {path : Path} {content : Bytes}
    (h : chainFiles path = .ok (some content)) :
    ∃ k ≤ 200, content = Utf8.encode (chainText k) := by
  have h := Except.ok.inj h
  split at h
  · next hk => exact ⟨_, hk.1, (Option.some.inj h).symm⟩
  · cases h

-- A page that lists a file whose name is too long for a disk.
def longList : Text :=
  List.replicate 300 'n' ++ "@t".toList

def longPath : Path :=
  .ofText ("t/default/".toList ++ List.replicate 300 'n' ++ ".html".toList)

def longFiles : FileSystem := fun path =>
  if path.names.any (255 < ·.length) then .error ⟨.nameTooLong, path⟩ else .ok none

end Compiler

end BraceTemplate
