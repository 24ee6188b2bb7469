import BraceTemplate.Proofs.Tree.Render
import BraceTemplate.Render.Renderer
import Mathlib.Data.Finset.Card

namespace BraceTemplate.Recent

variable {α : Type} {r : Recent α} {key other : Text} {value v : α} {newer : Finset Text} {count : Nat}

-- Whether a value is kept that so many others were used after.
def HasRoom (r : Recent α) (count : Nat) : Prop :=
  ∀ n ∈ r.limit, count < n

theorem HasRoom.mono {count' : Nat} (h : r.HasRoom count') (hle : count ≤ count') : r.HasRoom count :=
  fun n hn => Nat.lt_of_le_of_lt hle (h n hn)

-- The entries that are kept of more than there may be.
def kept (r : Recent α) (entries : List (Text × α)) : List (Text × α) :=
  match r.limit with
  | some n => entries.take n
  | none => entries

theorem entries_touch (r : Recent α) (key : Text) (value : α) :
    (r.touch key value).entries = r.kept ((key, value) :: r.entries.filter (·.1 != key)) := rfl

theorem limit_touch (r : Recent α) (key : Text) (value : α) : (r.touch key value).limit = r.limit := rfl

theorem kept_subset (r : Recent α) (entries : List (Text × α)) : r.kept entries ⊆ entries := by
  unfold kept
  split
  · exact List.take_subset _ _
  · exact List.Subset.refl _

theorem length_kept_le (r : Recent α) (entries : List (Text × α)) :
    ∀ n ∈ r.limit, (r.kept entries).length ≤ n := by
  intro n hn
  rw [kept, Option.mem_def.mp hn]
  exact List.length_take_le _ _

-- Entries among which a value stands behind those under other keys, each of which is there once.
def Behind (entries : List (Text × α)) (key : Text) (value : α) (newer : Finset Text) : Prop :=
  ∃ before after, entries = before ++ (key, value) :: after ∧ (before.map (·.1)).Nodup ∧
    (before.map (·.1)).toFinset = newer

namespace Behind

variable {entries : List (Text × α)}

theorem head (key : Text) (value : α) (rest : List (Text × α)) : Behind ((key, value) :: rest) key value ∅ :=
  ⟨[], rest, rfl, List.nodup_nil, rfl⟩

theorem cons_filter (h : Behind entries key value newer) (hne : other ≠ key) (v : α) :
    Behind ((other, v) :: entries.filter (·.1 != other)) key value (insert other newer) := by
  obtain ⟨before, after, rfl, hdistinct, hnewer⟩ := h
  refine ⟨(other, v) :: before.filter (·.1 != other), after.filter (·.1 != other), ?_, ?_, ?_⟩
  · rw [List.filter_append, List.filter_cons_of_pos (by simpa using hne.symm)]
    rfl
  · have hothers := (List.filter_sublist (p := (·.1 != other)) (l := before)).map (·.1)
    exact List.nodup_cons.mpr ⟨by simp, hdistinct.sublist hothers⟩
  · rw [← hnewer]
    ext x
    by_cases hx : x = other <;> simp [hx]

theorem find?_eq_some (h : Behind r.entries key value newer) (hkey : key ∉ newer) :
    r.find? key = some value := by
  obtain ⟨before, after, hentries, -, hnewer⟩ := h
  have hbefore : ∀ entry ∈ before, ¬(entry.1 == key) = true := by
    intro entry hentry heq
    have hmem : entry.1 ∈ newer := by
      rw [← hnewer, List.mem_toFinset]
      exact List.mem_map_of_mem hentry
    exact hkey (eq_of_beq heq ▸ hmem)
  rw [find?, hentries, List.find?_append, List.find?_eq_none.mpr hbefore]
  simp

theorem kept (h : Behind entries key value newer) (hroom : r.HasRoom newer.card) :
    Behind (r.kept entries) key value newer := by
  obtain ⟨before, after, rfl, hdistinct, rfl⟩ := h
  rw [List.toFinset_card_of_nodup hdistinct, List.length_map] at hroom
  unfold Recent.kept
  split
  · next n hn =>
      have hlt : before.length < n := hroom n hn
      obtain ⟨m, hm⟩ : ∃ m, n - before.length = m + 1 := ⟨n - before.length - 1, by omega⟩
      refine ⟨before, after.take m, ?_, hdistinct, rfl⟩
      rw [List.take_append, List.take_of_length_le hlt.le, hm, List.take_succ_cons]
  · exact ⟨before, after, rfl, hdistinct, rfl⟩

-- When there is no room for it any more, nothing but what stands before it is left.
theorem ne_of_mem_kept (h : Behind entries key value newer) (hkey : key ∉ newer)
    (hroom : ¬r.HasRoom newer.card) : ∀ entry ∈ r.kept entries, entry.1 ≠ key := by
  obtain ⟨before, after, rfl, hdistinct, rfl⟩ := h
  rw [List.toFinset_card_of_nodup hdistinct, List.length_map] at hroom
  obtain ⟨n, hn, hle⟩ : ∃ n, r.limit = some n ∧ n ≤ before.length := by
    simpa [HasRoom] using hroom
  intro entry hentry heq
  rw [Recent.kept, hn] at hentry
  dsimp only at hentry
  rw [List.take_append_of_le_length hle] at hentry
  have hmem : entry.1 ∈ before.map (·.1) := List.mem_map_of_mem (List.mem_of_mem_take hentry)
  exact hkey (heq ▸ List.mem_toFinset.mpr hmem)

end Behind

-- A value that was used under a key, before those under other keys: it is kept as long as there is room.
structure Follows (r : Recent α) (key : Text) (value : α) (newer : Finset Text) : Prop where
  notMem : key ∉ newer
  stays : r.HasRoom newer.card → Behind r.entries key value newer
  gone : ¬r.HasRoom newer.card → ∀ entry ∈ r.entries, entry.1 ≠ key

namespace Follows

theorem touch_self (r : Recent α) (key : Text) (value : α) :
    (r.touch key value).Follows key value ∅ := by
  have hkey : key ∉ (∅ : Finset Text) := Finset.notMem_empty key
  have hhead := Behind.head key value (r.entries.filter (·.1 != key))
  exact ⟨hkey, hhead.kept, hhead.ne_of_mem_kept hkey⟩

theorem touch_other (h : r.Follows key value newer) (hne : other ≠ key) (v : α) :
    (r.touch other v).Follows key value (insert other newer) := by
  have hkey : key ∉ insert other newer := by
    rw [Finset.mem_insert, not_or]
    exact ⟨hne.symm, h.notMem⟩
  refine ⟨hkey, fun hroom => ?_, fun hroom => ?_⟩
  · have hbefore : r.HasRoom newer.card := hroom.mono (Finset.card_le_card (Finset.subset_insert _ _))
    exact ((h.stays hbefore).cons_filter hne v).kept hroom
  · by_cases hbefore : r.HasRoom newer.card
    · exact ((h.stays hbefore).cons_filter hne v).ne_of_mem_kept hkey hroom
    · intro entry hentry
      rcases List.mem_cons.mp (kept_subset r _ hentry) with rfl | hmem
      · exact hne
      · exact h.gone hbefore entry (List.mem_of_mem_filter hmem)

theorem find?_eq (h : r.Follows key value newer) :
    (r.HasRoom newer.card → r.find? key = some value) ∧ (¬r.HasRoom newer.card → r.find? key = none) := by
  refine ⟨fun hroom => (h.stays hroom).find?_eq_some h.notMem, fun hroom => ?_⟩
  rw [find?, Option.map_eq_none_iff, List.find?_eq_none]
  intro entry hentry heq
  exact h.gone hroom entry hentry (eq_of_beq heq)

end Follows

end BraceTemplate.Recent

namespace BraceTemplate.Renderer

open Host

-- What can be asked of a renderer: to load a text, or to render one if there is one.
inductive Request where
  | load (source : Text)
  | render (source : Option Text) (bindings : Bindings Value) (s : Store)

namespace Request

-- The text that a template is needed for.
def source? : Request → Option Text
  | .load source => some source
  | .render source _ _ => source.filter (· != [])

-- The text that is used: one that a template is read from.
def used? (q : Request) : Option Text :=
  q.source?.filter fun source => (Template.ofText source).isOk

-- The template that is used.
def loaded? (q : Request) (r : Renderer) : Option Loaded :=
  q.source?.bind fun source => (r.load source).1.toOption

end Request

-- The renderer that a request leaves behind.
def after (r : Renderer) : Request → Renderer
  | .load source => (r.load source).2
  | .render source bindings s => (r.render ((source.map Datum.str).getD .null) bindings s).2.1

def afterAll (r : Renderer) (requests : List Request) : Renderer :=
  requests.foldl after r

variable {r : Renderer} {q : Request} {source : Text}

section Render

variable {bindings : Bindings Value} {s : Store}

-- A rendering is a load of its text, and then a run of what was loaded.
theorem render_str (r : Renderer) (hne : source ≠ []) :
    r.render (.str source) bindings s = match r.load source with
      | (.error e, r) => (.error e, r, s)
      | (.ok loaded, r) => match named bindings.entries with
        | .error e => (.error e, r, s)
        | .ok data => ((loaded.template.run data s).1, r, (loaded.template.run data s).2) := by
  have htruth : (!(Datum.str source).truth) = false := by
    simpa [Datum.truth, Datum.str, Scalar.truth] using hne
  unfold Renderer.render
  rw [htruth, if_neg Bool.false_ne_true]
  rfl

theorem source?_render (hne : source ≠ []) : (Request.render (some source) bindings s).source? = some source := by
  simp [Request.source?, hne]

theorem renderer_render (r : Renderer) (hne : source ≠ []) :
    (r.render (.str source) bindings s).2.1 = (r.load source).2 := by
  rw [render_str r hne]
  rcases r.load source with ⟨_ | loaded, r'⟩
  · rfl
  · cases named bindings.entries <;> rfl

theorem render_of_loaded? {loaded : Loaded}
    (h : (Request.render (some source) bindings s).loaded? r = some loaded) :
    (r.render (.str source) bindings s).1 =
      (named bindings.entries >>= fun data => (loaded.template.run data s).1) := by
  have hne : source ≠ [] := by
    rintro rfl
    exact nomatch (show none = some loaded from h)
  rw [Request.loaded?, source?_render hne, Option.bind_some] at h
  rw [render_str r hne]
  revert h
  rcases r.load source with ⟨_ | found, r'⟩
  · simp [Except.toOption]
  · intro h
    obtain rfl : found = loaded := by simpa [Except.toOption] using h
    cases named bindings.entries <;> rfl

end Render

theorem after_eq (r : Renderer) (q : Request) :
    r.after q = match q.source? with
      | some source => (r.load source).2
      | none => r := by
  cases q with
  | load source => rfl
  | render source bindings s =>
      cases source with
      | none => rfl
      | some source =>
          by_cases hne : source = []
          · subst hne
            rfl
          · rw [source?_render hne]
            exact renderer_render r hne

-- What a renderer keeps of its history: as many templates as it may, each as its text is read and each
-- with a number that was given before.
structure Orderly (limit : Option Int) (r : Renderer) : Prop where
  faithful : r.Faithful
  numbers : ∀ entry ∈ r.recent.entries, entry.2.number < r.loads
  limit : r.recent.limit = limit.map Int.toNat
  length : ∀ n ∈ r.recent.limit, r.recent.entries.length ≤ n

variable {limit : Option Int}

theorem orderly_empty (limit : Option Int) : (empty limit).Orderly limit where
  faithful := faithful_empty limit
  numbers _ hentry := absurd hentry List.not_mem_nil
  limit := rfl
  length _ _ := Nat.zero_le _

theorem mem_of_find? {loaded : Loaded} (h : r.recent.find? source = some loaded) :
    (source, loaded) ∈ r.recent.entries := by
  obtain ⟨⟨x, found⟩, hentry, rfl⟩ := Option.map_eq_some_iff.mp h
  obtain rfl : x = source := by simpa using List.find?_some hentry
  exact List.mem_of_find?_eq_some hentry

-- A renderer that has used a text: its template is now the latest one, and it is a new one unless it
-- was kept.
structure Uses (r : Renderer) (source : Text) (loaded : Loaded) (r' : Renderer) : Prop where
  template : Template.ofText source = .ok loaded.template
  recent : r'.recent = r.recent.touch source loaded
  loads : r.loads ≤ r'.loads
  number : loaded.number < r'.loads
  known : ∀ found, r.recent.find? source = some found → loaded = found
  unknown : r.recent.find? source = none → loaded.number = r.loads

theorem Orderly.uses (hr : r.Orderly limit) {loaded : Loaded} {r' : Renderer}
    (h : r.Uses source loaded r') : r'.Orderly limit where
  faithful := by
    intro entry hentry
    rw [h.recent] at hentry
    exact hr.faithful.touch h.template entry hentry
  numbers entry hentry := by
    rw [h.recent] at hentry
    rcases List.mem_cons.mp (Recent.kept_subset _ _ hentry) with rfl | hmem
    · exact h.number
    · exact Nat.lt_of_lt_of_le (hr.numbers entry (List.mem_of_mem_filter hmem)) h.loads
  limit := by
    rw [h.recent]
    exact hr.limit
  length := by
    rw [h.recent]
    exact Recent.length_kept_le _ _

-- A text is taken from what is kept, or read anew, or not read at all; the last leaves no trace.
theorem Orderly.load_cases (hr : r.Orderly limit) (source : Text) :
    (∃ loaded, (r.load source).1 = .ok loaded ∧ r.Uses source loaded (r.load source).2) ∨
      ∃ e, Template.ofText source = .error e ∧ r.load source = (.error e, r) := by
  unfold Renderer.load
  cases hfind : r.recent.find? source with
  | some loaded =>
      have hmem := mem_of_find? hfind
      have hof := hr.faithful (source, loaded) hmem
      refine .inl ⟨loaded, rfl, ?_⟩
      exact {
        template := hof
        recent := rfl
        loads := Nat.le_refl _
        number := hr.numbers _ hmem
        known := fun found h => Option.some.inj (hfind.symm.trans h)
        unknown := fun h => nomatch hfind.symm.trans h }
  | none =>
      cases hof : Template.ofText source with
      | ok template =>
          refine .inl ⟨⟨r.loads, template⟩, rfl, ?_⟩
          exact {
            template := hof
            recent := rfl
            loads := Nat.le_succ _
            number := Nat.lt_succ_self _
            known := fun found h => nomatch hfind.symm.trans h
            unknown := fun _ => rfl }
      | error e => exact .inr ⟨e, rfl, rfl⟩

theorem Orderly.after_of_used (hr : r.Orderly limit) (hq : q.used? = some source) :
    ∃ loaded, q.loaded? r = some loaded ∧ r.Uses source loaded (r.after q) := by
  obtain ⟨hsource, hok⟩ := Option.filter_eq_some_iff.mp hq
  rw [after_eq, Request.loaded?, hsource]
  rcases hr.load_cases source with ⟨loaded, hload, huses⟩ | ⟨e, hof, -⟩
  · exact ⟨loaded, by simp [hload, Except.toOption], huses⟩
  · rw [hof] at hok
    exact absurd hok Bool.false_ne_true

-- Nothing that fails and nothing that is empty leaves a trace.
theorem Orderly.after_of_unused (hr : r.Orderly limit) (hq : q.used? = none) : r.after q = r := by
  rw [after_eq]
  cases hsource : q.source? with
  | none => rfl
  | some source =>
      rcases hr.load_cases source with ⟨loaded, hload, huses⟩ | ⟨e, -, hload⟩
      · rw [Request.used?, hsource] at hq
        simp [huses.template, Except.isOk, Except.toBool] at hq
      · simp only [hload]

theorem Orderly.after (hr : r.Orderly limit) (q : Request) :
    (r.after q).Orderly limit ∧ r.loads ≤ (r.after q).loads := by
  cases hq : q.used? with
  | none =>
      rw [hr.after_of_unused hq]
      exact ⟨hr, Nat.le_refl _⟩
  | some source =>
      obtain ⟨loaded, -, huses⟩ := hr.after_of_used hq
      exact ⟨hr.uses huses, huses.loads⟩

theorem Orderly.afterAll (hr : r.Orderly limit) (requests : List Request) :
    (r.afterAll requests).Orderly limit ∧ r.loads ≤ (r.afterAll requests).loads := by
  induction requests generalizing r with
  | nil => exact ⟨hr, Nat.le_refl _⟩
  | cons q rest ih =>
      obtain ⟨hafter, hloads⟩ := hr.after q
      obtain ⟨hrest, hmore⟩ := ih hafter
      exact ⟨hrest, hloads.trans hmore⟩

theorem afterAll_append_cons (r : Renderer) (requests : List Request) (q : Request) (more : List Request) :
    r.afterAll (requests ++ q :: more) = ((r.afterAll requests).after q).afterAll more := by
  simp only [Renderer.afterAll, List.foldl_append, List.foldl_cons]

-- A template stands behind those of the texts that were used after it.
theorem Orderly.follows_afterAll (hr : r.Orderly limit) {loaded : Loaded} {newer : Finset Text}
    (h : r.recent.Follows source loaded newer) {requests : List Request}
    (hother : ∀ q ∈ requests, q.used? ≠ some source) :
    (r.afterAll requests).recent.Follows source loaded
      (newer ∪ (requests.filterMap Request.used?).toFinset) := by
  induction requests generalizing r newer with
  | nil => simpa [Renderer.afterAll] using h
  | cons q rest ih =>
      obtain ⟨hq, hrest⟩ := List.forall_mem_cons.mp hother
      change ((r.after q).afterAll rest).recent.Follows _ _ _
      cases hused : q.used? with
      | none =>
          rw [hr.after_of_unused hused, List.filterMap_cons_none hused]
          exact ih hr h hrest
      | some other =>
          obtain ⟨found, -, huses⟩ := hr.after_of_used hused
          have hne : other ≠ source := fun heq => hq (heq ▸ hused)
          have hstep : (r.after q).recent.Follows source loaded (insert other newer) :=
            huses.recent ▸ h.touch_other hne found
          rw [List.filterMap_cons_some hused, List.toFinset_cons, Finset.union_insert,
            ← Finset.insert_union]
          exact ih (hr.uses huses) hstep hrest

theorem Orderly.hasRoom_iff (hr : r.Orderly limit) (count : Nat) :
    r.recent.HasRoom count ↔ ∀ n ∈ limit, (count : Int) < n := by
  rw [Recent.HasRoom, hr.limit]
  cases limit with
  | none => simp
  | some n => simp

-- A text is given the template of its last use as long as fewer others were used since then than may be
-- kept. There are never more templates, and what uses none changes nothing.
theorem reuse (limit : Option Int) :
    (∀ (earlier since : List Request) (first again : Request) (source : Text),
      first.used? = some source → again.used? = some source → (∀ q ∈ since, q.used? ≠ some source) →
        ∃ old new, first.loaded? ((empty limit).afterAll earlier) = some old ∧
          again.loaded? ((empty limit).afterAll (earlier ++ first :: since)) = some new ∧
          new.template = old.template ∧
          (new.number = old.number ↔
            ∀ n ∈ limit, ((since.filterMap Request.used?).toFinset.card : Int) < n)) ∧
    (∀ (requests : List Request), ∀ n ∈ limit,
      ((empty limit).afterAll requests).recent.entries.length ≤ n.toNat) ∧
    ∀ (requests : List Request) (q : Request), q.used? = none →
      ((empty limit).afterAll requests).after q = (empty limit).afterAll requests := by
  refine ⟨?reused, ?bounded, ?unused⟩
  case reused =>
    intro earlier since first again source hfirst hagain hsince
    obtain ⟨hbefore, -⟩ := (orderly_empty limit).afterAll earlier
    obtain ⟨old, hold, holdUses⟩ := hbefore.after_of_used hfirst
    have husedOnce := hbefore.uses holdUses
    obtain ⟨hnow, hloads⟩ := husedOnce.afterAll since
    obtain ⟨new, hnew, hnewUses⟩ := hnow.after_of_used hagain
    have hfollows := husedOnce.follows_afterAll
      (holdUses.recent ▸ Recent.Follows.touch_self _ source old) hsince
    rw [Finset.empty_union] at hfollows
    obtain ⟨hkept, hgone⟩ := hfollows.find?_eq
    refine ⟨old, new, hold, ?_, ?_, ?_⟩
    · rw [afterAll_append_cons]
      exact hnew
    · exact Except.ok.inj (hnewUses.template.symm.trans holdUses.template)
    · rw [← hnow.hasRoom_iff]
      constructor
      · intro heq
        by_contra hroom
        have hfresh := hnewUses.unknown (hgone hroom)
        have hlt := holdUses.number
        omega
      · intro hroom
        rw [hnewUses.known old (hkept hroom)]
  case bounded =>
    intro requests n hn
    obtain ⟨horderly, -⟩ := (orderly_empty limit).afterAll requests
    exact horderly.length n.toNat (by rw [horderly.limit, Option.mem_def.mp hn]; rfl)
  case unused =>
    intro requests q hq
    exact ((orderly_empty limit).afterAll requests).1.after_of_unused hq

-- A text that cannot be read and an empty one do not count: with room for two, a template is kept while
-- one other text is used, and with room for one it is not.
theorem reuse_after_other :
    let text := ['a']
    let other := ['b']
    let since : List Request := [.load ['<', '?', '='], .render none ⟨[]⟩ .empty, .render (some []) ⟨[]⟩ .empty,
      .render (some other) ⟨[]⟩ .empty, .load other]
    (∃ old new, (Request.load text).loaded? (empty (some 2)) = some old ∧
      (Request.render (some text) ⟨[]⟩ .empty).loaded?
        ((empty (some 2)).afterAll (.load text :: since)) = some new ∧ new.number = old.number) ∧
    ∃ old new, (Request.load text).loaded? (empty (some 1)) = some old ∧
      (Request.render (some text) ⟨[]⟩ .empty).loaded?
        ((empty (some 1)).afterAll (.load text :: since)) = some new ∧ new.number ≠ old.number := by
  intro text other since
  have hfirst : (Request.load text).used? = some text := by decide +kernel
  have hagain : (Request.render (some text) ⟨[]⟩ .empty).used? = some text := by decide +kernel
  have hused : since.filterMap Request.used? = [other, other] := by decide +kernel
  have hsince : ∀ q ∈ since, q.used? ≠ some text := by decide +kernel
  constructor
  · obtain ⟨old, new, hold, hnew, -, hiff⟩ := (reuse (some 2)).1 [] since _ _ text hfirst hagain hsince
    exact ⟨old, new, hold, hnew, hiff.mpr (by rw [hused]; decide)⟩
  · obtain ⟨old, new, hold, hnew, -, hiff⟩ := (reuse (some 1)).1 [] since _ _ text hfirst hagain hsince
    exact ⟨old, new, hold, hnew, fun heq => absurd (hiff.mp heq) (by rw [hused]; decide)⟩

end BraceTemplate.Renderer
