import BraceTemplate.Proofs.Engine.Refusing
import Mathlib.Data.List.DropRight

namespace BraceTemplate

namespace Cache

theorem nodup_insert {key : Text} {value : Datum} {entries : List (Text × Datum)}
    (h : (entries.map (·.1)).Nodup) : ((insert key value entries).map (·.1)).Nodup := by
  have hmem : ∀ {entries : List (Text × Datum)} {k}, k ∈ (insert key value entries).map (·.1) →
      k = key ∨ k ∈ entries.map (·.1) := by
    intro entries
    induction entries with
    | nil => simp [insert]
    | cons entry rest ih => grind [insert]
  induction entries with
  | nil => exact List.pairwise_singleton ..
  | cons entry rest ih =>
      obtain ⟨hnew, hrest⟩ := List.nodup_cons.mp h
      rw [insert]
      split
      · next heq =>
          subst heq
          exact List.nodup_cons.mpr ⟨hnew, hrest⟩
      · next hne =>
          refine List.nodup_cons.mpr ⟨fun hold => ?_, ih hrest⟩
          exact (hmem hold).elim hne hnew

-- What is found under a key is what a cache that can be read answers with, when all that it holds is text.
theorem get?_of_find? {c : Cache} (hc : c.Willing) {key : Text} {found : Option Text}
    (h : find? c.entries key = found.map .str) : c.get? key = .ok (found.map .str) := by
  rw [get?, hc.reads, if_neg Bool.false_ne_true, h]
  cases found <;> rfl

end Cache

namespace Shelf

-- What can be asked of a shelf whose cache nobody else writes to.
inductive Request where
  | fetch (identity : Text) (make : Unit → Except CompileError Text)
  | setDebug (debug : Bool)
  | clear

def Request.isClear : Request → Bool
  | .clear => true
  | _ => false

-- The shelf that a request leaves behind.
def settle (s : Shelf) : Request → Shelf
  | .fetch identity make => (s.fetch identity make).2
  | .setDebug debug => { s with debug }
  | .clear => { s with cache := s.cache.map Cache.clear }

def settleAll (s : Shelf) (requests : List Request) : Shelf :=
  requests.foldl settle s

-- The mode that requests leave behind.
def modeAfter (debug : Bool) (requests : List Request) : Bool :=
  requests.foldl (fun debug request => match request with | .setDebug debug => debug | _ => debug) debug

-- Requests, each with the mode in which it is made.
def moded (debug : Bool) : List Request → List (Bool × Request)
  | [] => []
  | request :: rest => (debug, request) :: moded (modeAfter debug [request]) rest

-- The text that a request makes for a key while the cache is in use.
def made? (key : Text) : Bool × Request → Option Text
  | (false, .fetch identity make) => if Cache.keyOf identity = key then (make ()).toOption else none
  | _ => none

-- The first text that was made for a key since the cache was last emptied.
def firstMade (debug : Bool) (requests : List Request) (key : Text) : Option Text :=
  ((moded debug requests).rtakeWhile fun r => !r.2.isClear).findSome? (made? key)

section First

variable {debug : Bool} {requests : List Request}

theorem moded_append (debug : Bool) (requests later : List Request) :
    moded debug (requests ++ later) = moded debug requests ++ moded (modeAfter debug requests) later := by
  induction requests generalizing debug with
  | nil => rfl
  | cons request rest ih => simp only [List.cons_append, moded, ih]; rfl

theorem modeAfter_append (debug : Bool) (requests later : List Request) :
    modeAfter debug (requests ++ later) = modeAfter (modeAfter debug requests) later :=
  List.foldl_append

theorem firstMade_append (debug : Bool) (requests : List Request) (request : Request) (key : Text) :
    firstMade debug (requests ++ [request]) key =
      if request.isClear then none
      else (firstMade debug requests key).or (made? key (modeAfter debug requests, request)) := by
  unfold firstMade
  rw [moded_append]
  cases request <;> simp [moded, Request.isClear, List.findSome?_append]

-- A shelf whose cache holds, under each key, the first text that was made for it, and nothing else.
structure Filled (debug : Bool) (requests : List Request) (s : Shelf) : Prop where
  mode : s.debug = modeAfter debug requests
  cache : ∃ c, s.cache = some c ∧ c.Willing ∧ (c.entries.map (·.1)).Nodup ∧
    ∀ key, Cache.find? c.entries key = (firstMade debug requests key).map .str

section Fetch

variable {c : Cache} {identity : Text} {make : Unit → Except CompileError Text}

theorem lookUp_of_find? (hc : c.Willing) {key : Text} (found : Option Text)
    (h : Cache.find? c.entries key = found.map .str) : lookUp ⟨some c, false⟩ key = (found.map .str, []) := by
  simp only [lookUp, active, Bool.false_eq_true, if_false, Cache.get?_of_find? hc h]

-- While the cache is in use, a text that it holds is taken from it.
theorem fetch_of_found (hc : c.Willing) {text : Text}
    (h : Cache.find? c.entries (Cache.keyOf identity) = some (.str text)) :
    fetch ⟨some c, false⟩ identity make = (⟨.ok ⟨.str text, identity, true⟩, 0, []⟩, ⟨some c, false⟩) := by
  have hlook := lookUp_of_find? hc (some text) h
  unfold fetch
  simp only [hlook]
  rfl

-- A text that it does not hold is made, and held from then on.
theorem fetch_of_not_found (hc : c.Willing) (h : Cache.find? c.entries (Cache.keyOf identity) = none) :
    fetch ⟨some c, false⟩ identity make = (fresh identity (make ()) [],
      match make () with
      | .ok source =>
        ⟨some { c with entries := Cache.insert (Cache.keyOf identity) (.str source) c.entries }, false⟩
      | .error _ => ⟨some c, false⟩) := by
  have hlook := lookUp_of_find? hc none h
  unfold fetch
  simp only [hlook]
  cases make () with
  | error e => rfl
  | ok source =>
      simp only [keep, active, Bool.false_eq_true, if_false, hc.set_eq]
      rfl

end Fetch

theorem filled_empty (debug : Bool) : Filled debug [] ⟨some .empty, debug⟩ :=
  ⟨rfl, .empty, rfl, Cache.willing_empty, .nil, fun _ => rfl⟩

theorem debug_settle (s : Shelf) (request : Request) :
    (s.settle request).debug = modeAfter s.debug [request] := by
  cases request with
  | fetch identity make => exact s.debug_fetch identity make
  | setDebug debug => rfl
  | clear => rfl

-- What is held under each key after a fetch: nothing but a text that is made while the cache is in use and
-- nothing was held under its key changes anything.
theorem firstMade_fetch (debug : Bool) (requests : List Request) (identity : Text)
    (make : Unit → Except CompileError Text) (key : Text) :
    firstMade debug (requests ++ [.fetch identity make]) key =
      if modeAfter debug requests = false ∧ Cache.keyOf identity = key then
        (firstMade debug requests key).or (make ()).toOption
      else firstMade debug requests key := by
  rw [firstMade_append, if_neg (by simp [Request.isClear])]
  cases modeAfter debug requests <;> by_cases hkey : Cache.keyOf identity = key <;> simp [made?, hkey]

-- One request, whatever it is, keeps the cache filled.
theorem Filled.settle {s : Shelf} (h : Filled debug requests s) (request : Request) :
    Filled debug (requests ++ [request]) (s.settle request) := by
  refine ⟨by rw [debug_settle, h.mode, modeAfter_append], ?_⟩
  obtain ⟨hmode, c, hcache, hc, hnodup, hfind⟩ := h
  obtain ⟨_, mode⟩ := s
  obtain rfl : _ = some c := hcache
  cases request with
  | setDebug mode =>
      refine ⟨c, rfl, hc, hnodup, fun key => ?_⟩
      rw [hfind, firstMade_append]
      simp [Request.isClear, made?]
  | clear =>
      refine ⟨c.clear, rfl, ⟨hc.reads, hc.writes⟩, .nil, fun key => ?_⟩
      rw [firstMade_append]
      rfl
  | fetch identity make =>
      simp only [firstMade_fetch, ← hmode]
      cases mode with
      | true =>
          rw [Shelf.settle, fetch_of_inactive rfl]
          exact ⟨c, rfl, hc, hnodup, fun key => by simpa using hfind key⟩
      | false =>
          simp only [true_and]
          cases hfirst : firstMade debug requests (Cache.keyOf identity) with
          | some text =>
              have hfound : Cache.find? c.entries (Cache.keyOf identity) = some (.str text) := by
                rw [hfind, hfirst]
                rfl
              rw [Shelf.settle, fetch_of_found hc hfound]
              refine ⟨c, rfl, hc, hnodup, fun key => ?_⟩
              rw [hfind]
              split
              · next hkey => rw [← hkey, hfirst]; rfl
              · rfl
          | none =>
              rw [Shelf.settle, fetch_of_not_found hc (by rw [hfind, hfirst]; rfl)]
              cases hmake : make () with
              | error e =>
                  refine ⟨c, rfl, hc, hnodup, fun key => ?_⟩
                  rw [hfind]
                  simp [Except.toOption]
              | ok source =>
                  refine ⟨_, rfl, ⟨hc.reads, hc.writes⟩, Cache.nodup_insert hnodup, fun key => ?_⟩
                  rw [Cache.find?_insert, hfind]
                  by_cases hkey : key = Cache.keyOf identity
                  · rw [if_pos hkey, if_pos hkey.symm, hkey, hfirst]
                    rfl
                  · rw [if_neg hkey, if_neg (Ne.symm hkey)]

theorem filled_settleAll (debug : Bool) (requests : List Request) :
    Filled debug requests (settleAll ⟨some .empty, debug⟩ requests) := by
  induction requests using List.reverseRecOn with
  | nil => exact filled_empty debug
  | append_singleton requests request ih =>
      rw [settleAll, List.foldl_append]
      exact ih.settle request

-- The cache of a shelf that starts out empty holds, at every moment, the first text that was made under each
-- key since it was last emptied. A fetch while it is in use takes that text and makes nothing; any other one
-- makes its own text or fails with its own error. In debug mode, and where it fails, a fetch changes nothing.
theorem settleAll_empty (debug : Bool) (requests : List Request) (identity : Text)
    (make : Unit → Except CompileError Text) :
    let s := settleAll ⟨some .empty, debug⟩ requests
    Filled debug requests s ∧
      (∀ text, s.debug = false → firstMade debug requests (Cache.keyOf identity) = some text →
        s.fetch identity make = (⟨.ok ⟨.str text, identity, true⟩, 0, []⟩, s)) ∧
      (s.debug = true ∨ firstMade debug requests (Cache.keyOf identity) = none →
        (s.fetch identity make).1 =
          ⟨(make ()).map fun source => ⟨.str source, identity, false⟩, 1, []⟩) ∧
      (s.debug = true ∨ (s.fetch identity make).1.outcome.isOk = false → (s.fetch identity make).2 = s) := by
  intro s
  have h : Filled debug requests s := filled_settleAll debug requests
  refine ⟨h, ?_⟩
  obtain ⟨-, c, hcache, hc, -, hfind⟩ := h
  rcases hs : s with ⟨cache, mode⟩
  obtain rfl : cache = some c := by rw [← hcache, hs]
  cases mode with
  | true =>
      rw [fetch_of_inactive rfl]
      exact ⟨fun _ h => (nomatch h), fun _ => rfl, fun _ => rfl⟩
  | false =>
      cases hfirst : firstMade debug requests (Cache.keyOf identity) with
      | some text =>
          have hfound : Cache.find? c.entries (Cache.keyOf identity) = some (.str text) := by
            rw [hfind, hfirst]
            rfl
          rw [fetch_of_found hc hfound]
          refine ⟨fun other _ hother => ?_, fun h => ?_, fun _ => rfl⟩
          · obtain rfl := Option.some.inj hother
            rfl
          · rcases h with h | h <;> cases h
      | none =>
          rw [fetch_of_not_found hc (by rw [hfind, hfirst]; rfl)]
          refine ⟨fun _ _ h => (nomatch h), fun _ => rfl, fun h => ?_⟩
          cases hmake : make () with
          | error e => rfl
          | ok source =>
              rw [hmake] at h
              rcases h with h | h <;> cases h

-- A page that is lost at first and empty when it is found; then it is changed, and made once in debug mode.
def pageRequests : List Request :=
  [.fetch "a/b@main".toList fun _ => .error .outOfRoom, .fetch "a/b@main".toList fun _ => .ok [],
    .fetch "a/b@main".toList fun _ => .ok "x".toList, .setDebug true,
    .fetch "c@main".toList fun _ => .ok "y".toList, .setDebug false]

-- The empty text is held, and taken for every name that has the key; after the cache was emptied a page that is
-- lost again leaves it empty.
theorem settleAll_empty_page :
    let s := settleAll ⟨some .empty, false⟩ pageRequests
    let cleared := settleAll ⟨some .empty, false⟩ (pageRequests ++ [.clear])
    (s.debug = false ∧ firstMade false pageRequests "tpl_a_b_main".toList = some [] ∧
      firstMade false pageRequests "tpl_c_main".toList = none ∧
      s.fetch "a_b@main".toList (fun _ => .ok "z".toList) =
        (⟨.ok ⟨.str [], "a_b@main".toList, true⟩, 0, []⟩, s)) ∧
    (firstMade false (pageRequests ++ [.clear]) "tpl_a_b_main".toList = none ∧
      (cleared.fetch "a/b@main".toList fun _ => .error .outOfRoom) =
        (⟨.error .outOfRoom, 1, []⟩, cleared)) := by
  intro s cleared
  have hkept := settleAll_empty false pageRequests "a_b@main".toList fun _ => .ok "z".toList
  have hlost := settleAll_empty false (pageRequests ++ [.clear]) "a/b@main".toList fun _ => .error .outOfRoom
  have hfirst : firstMade false pageRequests "tpl_a_b_main".toList = some [] := by decide
  have hnone : firstMade false (pageRequests ++ [.clear]) "tpl_a_b_main".toList = none := by decide
  have hmade := hlost.2.2.1 (.inr hnone)
  exact ⟨⟨rfl, hfirst, by decide, hkept.2.1 [] rfl hfirst⟩, hnone,
    Prod.ext hmade (hlost.2.2.2 (.inr (by rw [hmade]; rfl)))⟩

end First

end Shelf

end BraceTemplate
