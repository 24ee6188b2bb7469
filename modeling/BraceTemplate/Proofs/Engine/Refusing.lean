import BraceTemplate.Proofs.Engine.Fetch

namespace BraceTemplate

-- A cache that is of no use: it refuses to be read, or it refuses to be written and holds nothing.
def Cache.Refusing (c : Cache) : Prop :=
  c.refusesReads = true ∨ (c.refusesWrites = true ∧ c.entries = [])

instance (c : Cache) : Decidable c.Refusing :=
  inferInstanceAs (Decidable (_ ∨ _))

-- What a cache that is of no use has noted about it when a template is asked for: that it refused
-- to be read, and that it refused what was made of the template.
def Cache.complaints (c : Cache) (identity : Text) (made : Except CompileError Text) : List Text :=
  (if c.refusesReads then [Shelf.readWarning (keyOf identity) .down] else []) ++
    if c.refusesWrites && made.isOk then [Shelf.writeWarning (keyOf identity) .down] else []

-- What came of a template, without what was noted about a cache.
def Fetched.quiet (fetched : Fetched) : Fetched :=
  { fetched with warnings := [] }

namespace Shelf

-- What a shelf is asked to do. A template may be made into something else each time.
inductive Step where
  | fetch (identity : Text) (make : Unit → Except CompileError Text)
  | setDebug (debug : Bool)

-- What comes of the templates that a shelf is asked for, one step after the other.
def fetchAll (s : Shelf) : List Step → List Fetched
  | [] => []
  | .fetch identity make :: rest =>
    let (fetched, s) := s.fetch identity make
    fetched :: fetchAll s rest
  | .setDebug debug :: rest => fetchAll { s with debug } rest

-- What a cache that is of no use has noted about it at each of the templates asked for.
def complaintsAll (c : Cache) (debug : Bool) : List Step → List (List Text)
  | [] => []
  | .fetch identity make :: rest =>
    (if debug then [] else c.complaints identity (make ())) :: complaintsAll c debug rest
  | .setDebug debug :: rest => complaintsAll c debug rest

-- A template that is made anew, with what is noted about a cache.
def fresh (identity : Text) (made : Except CompileError Text) (warnings : List Text) : Fetched :=
  ⟨made.map fun source => ⟨.str source, identity, false⟩, 1, warnings⟩

section Refusing

variable {c : Cache}

-- Nothing is ever found in a cache that is of no use.
theorem lookUp_refusing (h : c.Refusing) (key : Text) :
    lookUp ⟨some c, false⟩ key = (none, if c.refusesReads then [readWarning key .down] else []) := by
  have hget : c.get? key = if c.refusesReads then .error .down else .ok none := by
    unfold Cache.get?
    rcases h with hreads | ⟨-, hempty⟩
    · rw [if_pos hreads, if_pos hreads]
    · rw [hempty]
      rfl
  simp only [lookUp, active, Bool.false_eq_true, if_false, hget]
  cases c.refusesReads <;> rfl

-- What is kept in a cache that is of no use leaves it so.
theorem keep_refusing (h : c.Refusing) (key source : Text) :
    ∃ c' : Cache, keep ⟨some c, false⟩ key source =
        (⟨some c', false⟩, if c.refusesWrites then [writeWarning key .down] else []) ∧
      c'.Refusing ∧ c'.refusesReads = c.refusesReads ∧ c'.refusesWrites = c.refusesWrites := by
  simp only [keep, active, Bool.false_eq_true, if_false, Cache.set]
  cases hwrites : c.refusesWrites with
  | true => exact ⟨c, rfl, h, rfl, hwrites⟩
  | false =>
      -- A cache that can be written is one that cannot be read, whatever it holds.
      rcases h with hreads | ⟨hnot, -⟩
      · exact ⟨_, rfl, .inl hreads, rfl, rfl⟩
      · rw [hwrites] at hnot
        cases hnot

-- Where there is no cache, or it is not used, templates are made anew and nothing is noted.
theorem fetch_of_inactive {s : Shelf} (h : s.active = none) (identity : Text)
    (make : Unit → Except CompileError Text) :
    s.fetch identity make = (fresh identity (make ()) [], s) := by
  unfold fetch lookUp keep
  rw [h]
  cases make () <;> rfl

-- A template is made anew although there is a cache, and the cache stays of no use.
theorem fetch_refusing (h : c.Refusing) (debug : Bool) (identity : Text)
    (make : Unit → Except CompileError Text) :
    ∃ c' : Cache, fetch ⟨some c, debug⟩ identity make =
        (fresh identity (make ()) (if debug then [] else c.complaints identity (make ())),
          ⟨some c', debug⟩) ∧
      c'.Refusing ∧ c'.refusesReads = c.refusesReads ∧ c'.refusesWrites = c.refusesWrites := by
  cases debug with
  | true => exact ⟨c, fetch_of_inactive rfl identity make, h, rfl, rfl⟩
  | false =>
      unfold fetch
      simp only [lookUp_refusing h]
      cases hmake : make () with
      | error e =>
          refine ⟨c, ?_, h, rfl, rfl⟩
          simp [fresh, Cache.complaints, Except.isOk, Except.toBool, Except.map]
      | ok source =>
          obtain ⟨c', hkeep, hc'⟩ := keep_refusing h (Cache.keyOf identity) source
          refine ⟨c', ?_, hc'⟩
          simp [hkeep, fresh, Cache.complaints, Except.isOk, Except.toBool, Except.map]

theorem cached_fresh {identity : Text} {made : Except CompileError Text} {warnings : List Text}
    {artifact : Artifact} (h : (fresh identity made warnings).outcome = .ok artifact) :
    artifact.cached = false := by
  cases made with
  | error e => cases h
  | ok source =>
      cases h
      rfl

theorem complaints_congr {c' : Cache} (hreads : c'.refusesReads = c.refusesReads)
    (hwrites : c'.refusesWrites = c.refusesWrites) (debug : Bool) (steps : List Step) :
    complaintsAll c' debug steps = complaintsAll c debug steps := by
  induction steps generalizing debug with
  | nil => rfl
  | cons step steps ih =>
      cases step with
      | fetch identity make => simp only [complaintsAll, Cache.complaints, hreads, hwrites, ih]
      | setDebug debug => exact ih debug

-- A shelf whose cache is of no use does what one without a cache does, at every step: each template
-- is made anew, once, with the same outcome. It only notes what its cache refused, and nothing at all
-- in debug mode. The induction is on the steps; what a step leaves in the cache is of no use either.
theorem fetchAll_refusing (h : c.Refusing) (debug : Bool) (steps : List Step) :
    (fetchAll ⟨some c, debug⟩ steps).map Fetched.quiet = fetchAll ⟨none, debug⟩ steps ∧
      (fetchAll ⟨some c, debug⟩ steps).map (·.warnings) = complaintsAll c debug steps ∧
      ∀ fetched ∈ fetchAll ⟨some c, debug⟩ steps, fetched.made = 1 ∧
        ∀ artifact, fetched.outcome = .ok artifact → artifact.cached = false := by
  induction steps generalizing c debug with
  | nil => simp [fetchAll, complaintsAll]
  | cons step steps ih =>
      cases step with
      | setDebug debug => exact ih h debug
      | fetch identity make =>
          have hbare : fetch ⟨none, debug⟩ identity make = _ :=
            fetch_of_inactive (by cases debug <;> rfl) identity make
          obtain ⟨c', hstep, hc', hreads, hwrites⟩ := fetch_refusing h debug identity make
          obtain ⟨hsame, hnoted, hall⟩ := ih hc' debug
          simp only [fetchAll, complaintsAll, hstep, hbare, List.map_cons, hsame, hnoted,
            complaints_congr hreads hwrites, List.forall_mem_cons]
          exact ⟨rfl, rfl, ⟨rfl, fun artifact => cached_fresh⟩, hall⟩

-- Two fetches of a page, one of a page that cannot be made, and one more in debug mode.
def brokenSteps : List Step :=
  [.fetch "page@main".toList fun _ => .ok "x".toList, .fetch "page@main".toList fun _ => .ok "y".toList,
    .fetch "lost@main".toList fun _ => .error .outOfRoom, .setDebug true,
    .fetch "page@main".toList fun _ => .ok "x".toList]

theorem fetchAll_refusing_broken :
    (fetchAll ⟨some ⟨[], false, true⟩, false⟩ brokenSteps).map (·.warnings) =
        [["Cache write failed for tpl_page_main: cache down".toList],
          ["Cache write failed for tpl_page_main: cache down".toList], [], []] ∧
      (fetchAll ⟨some ⟨[("tpl_page_main".toList, .str "old".toList)], true, true⟩, false⟩
        brokenSteps).map (·.warnings) =
        [["Cache read failed for tpl_page_main: cache down".toList,
            "Cache write failed for tpl_page_main: cache down".toList],
          ["Cache read failed for tpl_page_main: cache down".toList,
            "Cache write failed for tpl_page_main: cache down".toList],
          ["Cache read failed for tpl_lost_main: cache down".toList], []] := by
  constructor
  · exact (fetchAll_refusing (by decide) false brokenSteps).2.1.trans (by decide)
  · exact (fetchAll_refusing (.inl rfl) false brokenSteps).2.1.trans (by decide)

end Refusing

end Shelf

end BraceTemplate
