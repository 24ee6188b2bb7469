import BraceTemplate.Proofs.Dotted.Quoted
import BraceTemplate.Proofs.Single.Interpolation
import BraceTemplate.Proofs.Tree.Names

namespace BraceTemplate

open Text

-- Words that the host does not read as the name of a variable.
def hostWords : List Text :=
  ["not".toList, "true".toList, "false".toList, "none".toList, "True".toList, "False".toList,
    "None".toList, "self".toList]

def isReadable (x : Text) : Bool :=
  isName x && !hostWords.contains x

-- A step down into data: to a position in a list, or to what stands under a text in a mapping.
inductive Key where
  | index (n : Nat)
  | name (s : Text)

namespace Key

-- A segment of digits is a position, any other a text.
def ofSegment (segment : Text) : Key :=
  if segment.all Char.isDigit then .index (Nat.ofDigitChars 10 segment 0) else .name segment

-- How a key is written for the host.
def text : Key → Text
  | .index n => natText n
  | .name s => Quoted.text s

end Key

def isSegment (segment : Text) : Bool :=
  if segment.all Char.isDigit then !segment.isEmpty && segment.length ≤ maxNumeralLength
  else segment.all Tag.isPathChar && !segment.all isDigitLike

namespace Datum

-- The part of a tree that a key leads to.
def part? : Datum → Key → Option Datum
  | .list items, .index n => items[n]?
  | .dict entries, .name s => lookup? entries (.str s)
  | _, _ => none

def follow (d : Datum) (segments : List Text) : Option Datum :=
  segments.foldlM (fun d segment => d.part? (.ofSegment segment)) d

end Datum

-- A variable and the segments of a path from it.
structure Dotted where
  head : Text
  segments : List Text

namespace Dotted

def body (p : Dotted) : Text :=
  '$' :: join ['.'] (p.head :: p.segments)

def source (p : Dotted) : Text :=
  (Segment.group p.body).spell

-- The names and texts that a path is made of can be written in it.
structure Sound (p : Dotted) : Prop where
  head : isReadable p.head = true
  nonempty : p.segments ≠ []
  segments : ∀ segment ∈ p.segments, isSegment segment = true

def keys (p : Dotted) : List Key :=
  p.segments.map .ofSegment

-- The subscripts by which keys are applied one after the other.
def subscripts (keys : List Key) : Text :=
  keys.flatMap fun key => '[' :: (key.text ++ [']'])

def host (p : Dotted) : Text :=
  Host.output ('(' :: p.head ++ ')' :: subscripts p.keys ++ " | e".toList)

end Dotted

theorem isName_of_readable {x : Text} (h : isReadable x = true) : isName x = true := by
  simp only [isReadable, Bool.and_eq_true] at h
  exact h.1

theorem ne_of_readable {x w : Text} (h : isReadable x = true) (hw : w ∈ hostWords) : x ≠ w := by
  rintro rfl
  simp [isReadable, hw] at h

section Characters

variable {c : Char}

theorem isPathChar_iff : Tag.isPathChar c = true ↔
    c ∉ ['\x7b', '\x7d', '\'', '"', '.'] ∧ isBlank c = false := by
  simp [Tag.isPathChar, and_assoc]

theorem isPathChar_of_namePart (hc : isNamePart c = true) : Tag.isPathChar c = true := by
  refine isPathChar_iff.mpr ⟨?_, not_isBlank_of_namePart hc⟩
  have hmarks : ∀ d ∈ ['\x7b', '\x7d', '\'', '"', '.'], isNamePart d = false := by decide
  exact fun hm => absurd hc (by simp [hmarks c hm])

theorem isNamePart_of_isDigit (hc : c.isDigit = true) : isNamePart c = true := by
  simp [isNamePart_eq, hc]

theorem isDigitLike_of_isDigit (hc : c.isDigit = true) : isDigitLike c = true := by
  simp [isDigitLike, isDecimalDigit_of_isDigit hc]

end Characters

section Segments

variable {segment : Text}

-- The two kinds of segments.
theorem isSegment_cases (h : isSegment segment = true) :
    (segment ≠ [] ∧ segment.all Char.isDigit = true ∧ segment.length ≤ maxNumeralLength ∧
      Key.ofSegment segment = .index (Nat.ofDigitChars 10 segment 0)) ∨
    (segment.all Tag.isPathChar = true ∧ segment.all isDigitLike = false ∧
      Key.ofSegment segment = .name segment) := by
  unfold isSegment at h
  unfold Key.ofSegment
  split_ifs at h with hdigits
  · simp only [Bool.and_eq_true, Bool.not_eq_true', decide_eq_true_eq] at h
    exact .inl ⟨List.isEmpty_eq_false_iff.mp h.1, hdigits, h.2, if_pos hdigits⟩
  · simp only [Bool.and_eq_true, Bool.not_eq_true'] at h
    exact .inr ⟨h.1, h.2, if_neg hdigits⟩

theorem part_of_segment (h : isSegment segment = true) :
    segment ≠ [] ∧ ∀ c ∈ segment, Tag.isPathChar c = true := by
  rcases isSegment_cases h with ⟨hne, hdigits, -⟩ | ⟨hpath, hno, -⟩
  · refine ⟨hne, fun c hc => isPathChar_of_namePart (isNamePart_of_isDigit ?_)⟩
    exact List.all_eq_true.mp hdigits c hc
  · refine ⟨?_, List.all_eq_true.mp hpath⟩
    rintro rfl
    simp at hno

theorem dropUnderscores?_of_digits (h : ∀ c ∈ segment, c.isDigit = true) :
    dropUnderscores? segment = some segment := by
  have hline : ∀ c ∈ segment, c ≠ '_' := by
    rintro c hc rfl
    exact absurd (h _ hc) (by decide)
  clear h
  induction segment with
  | nil => rfl
  | cons c rest ih =>
      obtain ⟨hc, hrest⟩ := List.forall_mem_cons.mp hline
      rw [dropUnderscores?, ih hrest, Option.map_some, if_neg hc]
      · exact fun h _ => hc h
      · exact fun _ h _ => hc h

theorem readNumeral?_of_digits (hne : segment ≠ []) (h : segment.all Char.isDigit = true)
    (hlength : segment.length ≤ maxNumeralLength) :
    readNumeral? segment = some (Nat.ofDigitChars 10 segment 0) := by
  have hdigits := List.all_eq_true.mp h
  have hline : segment.head? ≠ some '_' := fun hh =>
    absurd (hdigits _ (List.mem_of_head? hh)) (by decide)
  have hread : readDigits? segment = some (Nat.ofDigitChars 10 segment 0) :=
    foldlM_digitValue? hdigits 0
  simp only [readNumeral?, if_neg hline, dropUnderscores?_of_digits hdigits]
  simpa [hne, hlength] using hread

theorem subscript_of_segment (h : isSegment segment = true) :
    Tag.subscript segment = .ok ('[' :: ((Key.ofSegment segment).text ++ [']'])) := by
  rcases isSegment_cases h with ⟨hne, hdigits, hlength, hkey⟩ | ⟨-, hno, hkey⟩
  · have hlike : segment.all isDigitLike = true :=
      List.all_eq_true.mpr fun c hc => isDigitLike_of_isDigit (List.all_eq_true.mp hdigits c hc)
    rw [Tag.subscript, if_pos hlike, readNumeral?_of_digits hne hdigits hlength, hkey]
    rfl
  · rw [Tag.subscript, if_neg (by simp [hno]), hkey]
    rfl

theorem subscripts_of_segments {segments : List Text}
    (h : ∀ segment ∈ segments, isSegment segment = true) :
    Tag.subscripts segments = .ok (Dotted.subscripts (segments.map .ofSegment)) := by
  induction segments with
  | nil => rfl
  | cons segment segments ih =>
      obtain ⟨hfirst, hrest⟩ := List.forall_mem_cons.mp h
      rw [Tag.subscripts, subscript_of_segment hfirst, ih hrest]
      rfl

end Segments

section Blanks

variable {s : Text}

theorem Quoted.not_isBlank_text (hs : ∀ c ∈ s, isBlank c = false) :
    ∀ c ∈ Quoted.text s, isBlank c = false := by
  have hmarks : ∀ c ∈ ['\\', '\'', '"', 'n', 'r', 't', 'x', 'u', 'U'], isBlank c = false := by decide
  have hhex : ∀ c ∈ "0123456789abcdef".toList, isBlank c = false := by decide
  have hquote : isBlank (quoteFor s) = false := by
    rcases isQuote_iff.mp (isQuote_quoteFor s) with h | h <;> rw [h] <;> decide
  have hbody : ∀ c ∈ s.flatMap (escapeChar (quoteFor s)), isBlank c = false := by
    intro c hc
    obtain ⟨d, hd, hc⟩ := List.mem_flatMap.mp hc
    rcases escapeChar_cases (quoteFor s) d with ⟨e, heq, he⟩ | heq | ⟨heq, -⟩
    · have hletter : isBlank e = false := by
        rcases he with ⟨rfl, -⟩ | hm
        · exact hs e hd
        · exact hmarks e (by simp only [List.mem_cons, Prod.mk.injEq] at hm ⊢; tauto)
      rw [heq, List.mem_cons, List.mem_singleton] at hc
      rcases hc with rfl | rfl
      · decide
      · exact hletter
    · obtain ⟨letter, width, hcode, -, hm⟩ := codeEscape_cases d
      rw [heq, hcode, List.mem_cons, List.mem_cons] at hc
      rcases hc with rfl | rfl | hc
      · decide
      · exact hmarks c (by simp only [List.mem_cons, Prod.mk.injEq] at hm ⊢; tauto)
      · exact hhex c (mem_of_mem_hexFixed hc)
    · rw [heq, List.mem_singleton] at hc
      exact hc ▸ hs d hd
  intro c hc
  simp only [Quoted.text, List.cons_append, List.mem_cons, List.mem_append, List.not_mem_nil,
    or_false] at hc
  rcases hc with rfl | hc | rfl
  exacts [hquote, hbody c hc, hquote]

theorem Tag.mergeStatements_of_not_blank (hs : ∀ c ∈ s, isBlank c = false) : mergeStatements s = s := by
  refine mergeStatements_eq_self_iff.mpr ?_
  rintro ⟨front, gap, p, y, after, rfl, -, hgap, hblank, -⟩
  obtain ⟨c, gap, rfl⟩ := List.exists_cons_of_ne_nil hgap
  have hboth := (hs c (by simp)).symm.trans (hblank c List.mem_cons_self)
  cases hboth

end Blanks

namespace Dotted

variable {p : Dotted}

theorem Sound.parts (hp : p.Sound) :
    ∀ part ∈ p.head :: p.segments, part ≠ [] ∧ ∀ c ∈ part, Tag.isPathChar c = true := by
  obtain ⟨c, rest, hx, -, hpart⟩ := isName_iff.mp (isName_of_readable hp.head)
  refine List.forall_mem_cons.mpr ⟨⟨by simp [hx], fun d hd => ?_⟩, fun segment hm => ?_⟩
  · exact isPathChar_of_namePart (hpart d hd)
  · exact part_of_segment (hp.segments segment hm)

theorem Sound.not_isBlank_head (hp : p.Sound) : ∀ c ∈ p.head, isBlank c = false := by
  obtain ⟨-, -, -, -, hpart⟩ := isName_iff.mp (isName_of_readable hp.head)
  exact fun c hc => not_isBlank_of_namePart (hpart c hc)

theorem Sound.not_isBlank_subscripts (hp : p.Sound) : ∀ c ∈ subscripts p.keys, isBlank c = false := by
  have hkey : ∀ key ∈ p.keys, ∀ c ∈ key.text, isBlank c = false := by
    intro key hm
    obtain ⟨segment, hsegment, rfl⟩ := List.mem_map.mp hm
    rcases isSegment_cases (hp.segments segment hsegment) with ⟨-, -, -, hkey⟩ | ⟨hpath, -, hkey⟩
    · rw [hkey]
      exact fun c hc => not_isBlank_of_namePart (isNamePart_of_isDigit (isDigit_of_mem_natText hc))
    · rw [hkey]
      exact Quoted.not_isBlank_text fun c hc => (isPathChar_iff.mp (List.all_eq_true.mp hpath c hc)).2
  intro c hc
  obtain ⟨key, hm, hc⟩ := List.mem_flatMap.mp hc
  simp only [List.mem_cons, List.mem_append, List.not_mem_nil, or_false] at hc
  rcases hc with rfl | hc | rfl
  exacts [by decide, hkey key hm c hc, by decide]

-- There is no white space in a path that could part one statement from another.
theorem Sound.mergeStatements_host (hp : p.Sound) : Tag.mergeStatements p.host = p.host := by
  obtain ⟨front, hfront⟩ : ∃ front, subscripts p.keys = front ++ [']'] := by
    have hne : p.keys ≠ [] := fun h => hp.nonempty (List.map_eq_nil_iff.mp h)
    obtain ⟨keys, last, hkeys⟩ := (List.eq_nil_or_concat' p.keys).resolve_left hne
    exact ⟨subscripts keys ++ '[' :: last.text, by simp [hkeys, subscripts]⟩
  have hspelled : p.host = "<?= ".toList ++ '(' :: (p.head ++ ')' :: front ++ ']' :: " | e =?>".toList) := by
    simp [host, hfront, Host.output, Host.outputOpen, Host.outputClose]
  have hends : Tag.mergeFrom none "<?= ".toList = "<?= ".toList ∧
      Tag.mergeStatements " | e =?>".toList = " | e =?>".toList := by decide
  have hblank : ∀ c ∈ p.head ++ ')' :: front, isBlank c = false := by
    intro c hc
    simp only [List.mem_append, List.mem_cons] at hc
    rcases hc with hc | rfl | hc
    · exact hp.not_isBlank_head c hc
    · decide
    · exact hp.not_isBlank_subscripts c (by simp [hfront, hc])
  have hmiddle : Tag.mergeFrom none (p.head ++ ')' :: front) = p.head ++ ')' :: front :=
    Tag.mergeStatements_of_not_blank hblank
  rw [hspelled, Tag.mergeStatements, Tag.mergeFrom_append_cons (by decide) (by decide), hends.1,
    Tag.mergeStatements, Tag.mergeFrom_append_cons (by decide) (by decide), hmiddle, hends.2]

-- A path becomes one output, in which each segment stands between brackets of its own.
theorem compile_source {c : Compiler} (hc : c.extensions = []) (fs : FileSystem) (hp : p.Sound) :
    c.compile fs p.source = .ok p.host := by
  have hbrace : p.body.BraceFree := by
    intro c hc
    rcases List.mem_cons.mp hc with rfl | hc
    · decide
    rcases mem_join hc with rfl | ⟨part, hm, hc⟩
    · decide
    · have hpath := (isPathChar_iff.mp ((hp.parts part hm).2 c hc)).1
      rw [isBrace_eq_false_iff]
      exact ⟨fun h => hpath (by simp [h]), fun h => hpath (by simp [h])⟩
  have hread : Tag.read p.body = some (.path ('$' :: p.head) p.segments) := by
    change (Tag.readPath p.body).or _ = _
    rw [body, Tag.readPath_eq_path hp.nonempty hp.parts, Option.some_or]
  have hrewrite : (Tag.path ('$' :: p.head) p.segments).rewrite = .ok p.host := by
    rw [Tag.rewrite, subscripts_of_segments hp.segments, Sigil.strip_name (isName_of_readable hp.head)]
    rfl
  rw [source, Compiler.compile_tag fs hbrace rfl rfl hread hrewrite, hp.mergeStatements_host,
    Compiler.extended_eq hc]

end Dotted

end BraceTemplate
