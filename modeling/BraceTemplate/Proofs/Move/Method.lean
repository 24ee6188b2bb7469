import BraceTemplate.Host.Method
import BraceTemplate.Proofs.Move.Filter

namespace BraceTemplate.Host.Run

variable {m : Move}

section Texts

variable (isSafe : Bool) (s : Text) (v : Value) (p : Passed)

@[simp]
theorem moved_likeText : moved m (likeText isSafe s) = likeText isSafe s := by
  cases isSafe <;> rfl

theorem mirrors_safeText : Mirrors m (safeText v) (safeText (moved m v)) := by
  have htext : ∀ v : Value, Mirrors m (do return escape (← text v)) (do return escape (← text (moved m v))) :=
    fun v => (mirrors_text v).bind fun s => mirrors_pure rfl
  cases v with
  | scalar s =>
      cases s with
      | safe s => exact mirrors_pure rfl
      | _ => exact htext (.scalar _)
  | _ => exact htext _

theorem mirrors_partText : Mirrors m (partText isSafe v) (partText isSafe (moved m v)) :=
  (mirrors_safeText v).ite (mirrors_asText v)

theorem mirrors_windowBound (v? : Option Value) :
    Mirrors m (windowBound v?) (windowBound (v?.map (moved m))) := by
  cases v? with
  | none => exact mirrors_pure rfl
  | some v => exact mirrors_sliceBound v

theorem mirrors_window (start stop : Option Value) :
    Mirrors m (window s start stop) (window s (start.map (moved m)) (stop.map (moved m))) := by
  refine (mirrors_windowBound start).bind fun a => (mirrors_windowBound stop).bind fun b => ?_
  simp only [moved_option, moved_plain_eq_id, Option.map_id, id]
  refine (mirrors_pure rfl).ite ?_
  cases sliceRange? s.length a b none with
  | none => exact mirrors_pure rfl
  | some range => exact mirrors_pure (by simp; split <;> rfl)

theorem mirrors_windowOf (bounds : List Value) :
    Mirrors m (window s bounds.head? bounds.tail.head?)
      (window s (bounds.map (moved m)).head? (bounds.map (moved m)).tail.head?) := by
  rcases bounds with _ | ⟨a, _ | ⟨b, rest⟩⟩ <;> exact mirrors_window s _ _

theorem mirrors_cutBound (v? : Option Value) : Mirrors m (cutBound v?) (cutBound (v?.map (moved m))) := by
  cases v? with
  | none => exact mirrors_pure rfl
  | some v => exact (mirrors_asSize v).bind fun i => mirrors_pure (by simp)

theorem mirrors_piecesOf (sep : Option Value) (count : Nat) :
    Mirrors m (piecesOf s sep count) (piecesOf s (sep.map (moved m)) count) := by
  have hmarked : ∀ v : Value, Mirrors m
      (do
        let mark ← asText v
        if mark.isEmpty then fail .wrongValue else pure (Text.splitOn mark (s.length + 1) count s))
      (do
        let mark ← asText (moved m v)
        if mark.isEmpty then fail .wrongValue else pure (Text.splitOn mark (s.length + 1) count s)) :=
    fun v => (mirrors_asText v).bind fun mark => (mirrors_fail _).ite (mirrors_pure (by simp))
  cases sep with
  | none => exact mirrors_pure (by simp)
  | some v =>
      cases v with
      | scalar t =>
          cases t with
          | null => exact mirrors_pure (by simp)
          | _ => exact hmarked (.scalar _)
      | _ => exact hmarked _

theorem mirrors_splitText : Mirrors m (splitText isSafe s p) (splitText isSafe s (moved m p)) := by
  refine (p.mirrors_bind _).bind fun found => ?_
  rcases found with _ | ⟨sep, _ | ⟨bound, _ | ⟨_, _⟩⟩⟩
  · exact mirrors_fail _
  · exact mirrors_fail _
  · refine (mirrors_cutBound bound).bind fun bound => ?_
    simp only [moved_option, moved_plain_eq_id, Option.map_id, id]
    refine (mirrors_piecesOf s sep _).bind fun pieces => ?_
    have hpieces := mirrors_newList (m := m) (pieces.map (likeText isSafe))
    simpa [Function.comp_def] using hpieces
  · exact mirrors_fail _

theorem mirrors_joinTexts (all : List Value) :
    Mirrors m (joinTexts isSafe s all) (joinTexts isSafe s (all.map (moved m))) :=
  (Mirrors.mapM (mirrors_partText isSafe) all).bind fun pieces => mirrors_pure (by simp)

theorem mirrors_anyFits (fits : Text → Bool) (items : List Value) :
    Mirrors m (offered.anyFits fits items) (offered.anyFits fits (items.map (moved m))) := by
  induction items with
  | nil => exact mirrors_pure rfl
  | cons v rest ih => exact (mirrors_asText v).bind fun _ => (mirrors_pure rfl).ite ih

theorem mirrors_offered (fits : Text → Bool) : Mirrors m (offered fits v) (offered fits (moved m v)) := by
  have hone : ∀ v : Value, Mirrors m (do return fits (← asText v)) (do return fits (← asText (moved m v))) :=
    fun v => (mirrors_asText v).bind fun s => mirrors_pure rfl
  cases v with
  | tuple items =>
      rw [moved_tuple]
      exact mirrors_anyFits fits items
  | _ => exact hone _

theorem mirrors_strippedOf (side : Text → (Char → Bool) → Text) :
    Mirrors m (strippedOf side s v) (strippedOf side s (moved m v)) := by
  have hset : ∀ v : Value, Mirrors m (do let set ← asText v; pure (side s set.contains))
      (do let set ← asText (moved m v); pure (side s set.contains)) :=
    fun v => (mirrors_asText v).bind fun set => mirrors_pure rfl
  cases v with
  | scalar t =>
      cases t with
      | null => exact mirrors_pure rfl
      | _ => exact hset (.scalar _)
  | _ => exact hset _

theorem mirrors_stripped (side : Text → (Char → Bool) → Text) :
    Mirrors m (stripped side s p) (stripped side s (moved m p)) := by
  refine (p.mirrors_plain 0 1).bind fun found => ?_
  cases found with
  | nil => exact mirrors_pure rfl
  | cons v rest => exact mirrors_strippedOf s v side

theorem moved_found (found : Option (Nat × Text)) : moved m found = found := by
  cases found <;> rfl

theorem mirrors_tested (fits : Text → Text → Bool) : Mirrors m (tested fits s p) (tested fits s (moved m p)) := by
  refine (p.mirrors_plain 1 3).bind fun found => ?_
  cases found with
  | nil => exact mirrors_fail _
  | cons v bounds =>
      refine (mirrors_windowOf s bounds).bind fun found => ?_
      rw [moved_found]
      exact (mirrors_offered v _).bind fun b => mirrors_pure rfl

theorem mirrors_searched {found : Text → Option (Nat × Text) → Run Value}
    (h : ∀ mark part, Mirrors m (found mark part) (found mark part)) :
    Mirrors m (searched found s p) (searched found s (moved m p)) := by
  refine (p.mirrors_plain 1 3).bind fun values => ?_
  cases values with
  | nil => exact mirrors_fail _
  | cons v bounds =>
      refine (mirrors_asText v).bind fun mark => (mirrors_windowOf s bounds).bind fun part => ?_
      rw [moved_found]
      exact h mark part

theorem mirrors_onOne {α : Type} {R : α → α → Prop} {f f' : Value → Run α}
    (h : ∀ v, MirrorsBy m R (f v) (f' (moved m v))) : MirrorsBy m R (onOne p f) (onOne (moved m p) f') := by
  refine (p.mirrors_plain 1 1).bind fun values => ?_
  rcases values with _ | ⟨v, _ | ⟨_, _⟩⟩
  · exact mirrors_fail _
  · exact h v
  · exact mirrors_fail _

theorem mirrors_replacedIn : Mirrors m (replacedIn isSafe s p) (replacedIn isSafe s (moved m p)) := by
  refine (p.mirrors_plain 2 3).bind fun values => ?_
  rcases values with _ | ⟨old, _ | ⟨new, bound⟩⟩
  · exact mirrors_fail _
  · exact mirrors_fail _
  · refine (mirrors_partText isSafe new).bind fun new => (mirrors_asText old).bind fun old => ?_
    have hbound := mirrors_cutBound (m := m) bound.head?
    rw [← List.head?_map] at hbound
    exact hbound.bind fun bound => mirrors_pure (by simp)

theorem mirrors_textMethod (name : String) :
    Mirrors m (textMethod isSafe s name p) (textMethod isSafe s name (moved m p)) := by
  have hlike : ∀ t : Text, Mirrors m (bare p (pure (likeText isSafe t))) (bare (moved m p) (pure (likeText isSafe t))) :=
    fun t => mirrors_bare p (mirrors_pure (by simp))
  have hstripped : ∀ side, Mirrors m (likeText isSafe <$> stripped side s p)
      (likeText isSafe <$> stripped side s (moved m p)) :=
    fun side => (mirrors_stripped s p side).map (by simp)
  unfold textMethod
  dsimp only
  split
  · exact hlike _
  · exact hlike _
  · exact hlike _
  · exact hstripped _
  · exact hstripped _
  · exact hstripped _
  · exact mirrors_splitText isSafe s p
  · exact mirrors_onOne p fun v => (mirrors_items v).bind (mirrors_joinTexts isSafe s)
  · exact mirrors_tested s p _
  · exact mirrors_tested s p _
  · exact mirrors_searched s p fun mark part => by cases part <;> exact mirrors_pure rfl
  · refine mirrors_searched s p fun mark part? => ?_
    rcases part? with _ | ⟨start, part⟩
    · exact mirrors_fail _
    · dsimp only [surelyAt]
      cases Text.indexOf? mark part with
      | none => exact mirrors_fail _
      | some n => exact mirrors_pure rfl
  · exact mirrors_searched s p fun mark part => by cases part <;> exact mirrors_pure rfl
  · exact mirrors_replacedIn isSafe s p
  · exact mirrors_bare p (mirrors_pure rfl)
  · exact mirrors_fail _

end Texts

section Lists

variable (a : Nat) (all : Array Value) (items : List Value) (v : Value) (p : Passed)

theorem mirrors_indexBound (v? : Option Value) : Mirrors m (indexBound v?) (indexBound (v?.map (moved m))) := by
  cases v? with
  | none => exact mirrors_pure rfl
  | some v => exact (mirrors_asIndex v).map fun _ => rfl

theorem mirrors_indexIn_search (n : Nat) :
    Mirrors m (indexIn.search v n items) (indexIn.search (moved m v) n (items.map (moved m))) := by
  induction items generalizing n with
  | nil => exact mirrors_fail _
  | cons y rest ih => exact (mirrors_sameItem y v).bind fun _ => (mirrors_pure rfl).ite (ih (n + 1))

theorem mirrors_indexIn (start stop : Option Value) :
    Mirrors m (indexIn items v start stop)
      (indexIn (items.map (moved m)) (moved m v) (start.map (moved m)) (stop.map (moved m))) := by
  refine (mirrors_indexBound start).bind fun a => (mirrors_indexBound stop).bind fun b => ?_
  simp only [moved_option, moved_plain_eq_id, Option.map_id, id, List.length_map]
  cases sliceRange? items.length a b none with
  | none => exact mirrors_fail _
  | some range =>
      have hsearch := mirrors_indexIn_search (m := m)
        ((items.drop range.1.toNat).take (range.2.1 - range.1).toNat) v range.1.toNat
      rw [List.map_take, List.map_drop] at hsearch
      exact hsearch

theorem mirrors_countIn : Mirrors m (countIn v items) (countIn (moved m v) (items.map (moved m))) := by
  induction items with
  | nil => exact mirrors_pure rfl
  | cons y rest ih => exact (mirrors_sameItem y v).bind fun here => ih.bind fun others => mirrors_pure rfl

theorem mirrors_pushTo : Mirrors m (pushTo a v) (pushTo (m.address a) (moved m v)) := by
  refine (mirrors_cell? a).bind fun c? => ?_
  rcases c? with _ | items | _ | _ | _ | _ | _ | _
  · exact mirrors_pure rfl
  · have hupdate := mirrors_update (m := m) a (loose_list (items.push v))
    rw [moved_listCell, Array.map_push] at hupdate
    exact hupdate
  · exact mirrors_pure rfl
  · exact mirrors_pure rfl
  · exact mirrors_pure rfl
  · exact mirrors_pure rfl
  · exact mirrors_pure rfl
  · exact mirrors_pure rfl

theorem mirrors_extendList : Mirrors m (extendList a v) (extendList (m.address a) (moved m v)) := by
  have hknown : knownTo (m.address a) (moved m v) = knownTo a v := by
    cases v <;> first | rfl | exact Move.address_beq
  unfold extendList
  rw [hknown]
  refine MirrorsBy.ite ((mirrors_items v).bind fun items => Mirrors.forM (mirrors_pushTo a) items) ?_
  exact (mirrors_walkOf v).bind fun walk => Mirrors.foldAll (fun _ x => mirrors_pushTo a x) walk ()

-- A list that is put in the place of another one.
theorem mirrors_putList {all all' : Array Value} (h : all' = all.map (moved m)) :
    Mirrors m (update a (.list all)) (update (m.address a) (.list all')) := by
  subst h
  exact mirrors_update a (loose_list all)

theorem mirrors_poppedIndex : Mirrors m (poppedIndex p) (poppedIndex (moved m p)) := by
  refine (p.mirrors_plain 0 1).bind fun values => ?_
  rcases values with _ | ⟨v, _ | ⟨_, _⟩⟩
  · exact mirrors_pure rfl
  · exact mirrors_asSize v
  · exact mirrors_pure rfl

theorem mirrors_removeAt (n : Nat) :
    Mirrors m (removeAt a all n) (removeAt (m.address a) (all.map (moved m)) n) :=
  mirrors_putList a (by simp)

theorem mirrors_popped : Mirrors m (popped a all p) (popped (m.address a) (all.map (moved m)) (moved m p)) := by
  refine (mirrors_poppedIndex p).bind fun i => ?_
  simp only [Array.size_map, moved_plain]
  cases position? all.size i with
  | none => exact mirrors_fail _
  | some n =>
      refine (mirrors_removeAt a all n).bind fun _ => mirrors_pure ?_
      rw [Array.getElem?_map]
      exact getD_moved moved_null all[n]?

theorem mirrors_inserted :
    Mirrors m (inserted a all p) (inserted (m.address a) (all.map (moved m)) (moved m p)) := by
  refine (p.mirrors_plain 2 2).bind fun values => ?_
  rcases values with _ | ⟨at', _ | ⟨v, _ | ⟨_, _⟩⟩⟩
  · exact mirrors_fail _
  · exact mirrors_fail _
  · refine (mirrors_asSize at').bind fun i => ?_
    simp only [Array.size_map, moved_plain]
    cases sliceRange? all.size (some i) none none with
    | none => exact mirrors_pure rfl
    | some range => exact (mirrors_putList a (by simp)).bind fun _ => mirrors_pure rfl
  · exact mirrors_fail _

theorem mirrors_placeIn : Mirrors m (placeIn items p) (placeIn (items.map (moved m)) (moved m p)) := by
  refine (p.mirrors_plain 1 3).bind fun values => ?_
  rcases values with _ | ⟨v, bounds⟩
  · exact mirrors_fail _
  · have hindex := mirrors_indexIn (m := m) items v bounds.head? bounds.tail.head?
    rw [← List.head?_map, ← List.head?_map, List.map_tail] at hindex
    exact hindex.bind fun n => mirrors_pure rfl

theorem mirrors_sortedBy (key : Value) (descending : Option Value) :
    Mirrors m (sortedBy a all key descending)
      (sortedBy (m.address a) (all.map (moved m)) (moved m key) (descending.map (moved m))) := by
  refine (mirrors_direction descending).bind fun descending => ?_
  have hsorted : Mirrors m
      (do
        let sorted ← arranged before descending (all.toList.map fun v => (v, v))
        update a (.list sorted.toArray)
        pure null)
      (do
        let sorted ← arranged before descending ((all.map (moved m)).toList.map fun v => (v, v))
        update (m.address a) (.list sorted.toArray)
        pure null) := by
    have hkeyed : (all.map (moved m)).toList.map (fun v => (v, v)) =
        (all.toList.map fun v => (v, v)).map (moved m) := by
      simp [Function.comp_def]
    rw [hkeyed]
    refine (Mirrors.arranged mirrors_before descending _).bind fun sorted => ?_
    exact (mirrors_putList a (by simp)).bind fun _ => mirrors_pure rfl
  cases key with
  | scalar s =>
      cases s with
      | null => exact hsorted
      | _ => exact mirrors_fail _
  | _ => exact mirrors_fail _

theorem mirrors_sortedIn : Mirrors m (sortedIn a all p) (sortedIn (m.address a) (all.map (moved m)) (moved m p)) := by
  refine (Passed.mirrors_bind ⟨[], p.named⟩ _).bind fun found => ?_
  rcases found with _ | ⟨key, _ | ⟨descending, _ | ⟨_, _⟩⟩⟩
  · exact mirrors_fail _
  · exact mirrors_fail _
  · have hsorted := mirrors_sortedBy (m := m) a all (key.getD null) descending
    rw [← getD_moved (w := null) moved_null] at hsorted
    dsimp only
    rw [Passed.args_moved, List.isEmpty_map]
    exact hsorted.ite (mirrors_fail _)
  · exact mirrors_fail _

theorem mirrors_listMethod (name : String) :
    Mirrors m (listMethod a all name p) (listMethod (m.address a) (all.map (moved m)) name (moved m p)) := by
  unfold listMethod
  split
  · exact mirrors_onOne p fun v => (mirrors_putList a (by simp)).bind fun _ => mirrors_pure rfl
  · exact mirrors_onOne p fun v => (mirrors_extendList a v).bind fun _ => mirrors_pure rfl
  · rw [Array.toList_map]
    exact mirrors_placeIn all.toList p
  · rw [Array.toList_map]
    exact mirrors_onOne p fun v => (mirrors_countIn all.toList v).bind fun n => mirrors_pure rfl
  · exact mirrors_popped a all p
  · exact mirrors_inserted a all p
  · rw [Array.toList_map]
    refine mirrors_onOne p fun v => (mirrors_indexIn all.toList v none none).bind fun n => ?_
    exact (mirrors_removeAt a all n).bind fun _ => mirrors_pure rfl
  · exact mirrors_bare p ((mirrors_putList a (by simp)).bind fun _ => mirrors_pure rfl)
  · exact mirrors_bare p ((mirrors_putList a (by simp)).bind fun _ => mirrors_pure rfl)
  · rw [Array.toList_map]
    exact mirrors_bare p (mirrors_newList all.toList)
  · exact mirrors_sortedIn a all p
  · exact mirrors_fail _

end Lists

section Mappings

variable (a : Nat) (t : Table Value) (entries : List (Value × Value)) (v : Value) (p : Passed)

-- A mapping that is put in the place of another one.
theorem mirrors_putDict {t t' : Table Value} (h : t' = moved m t) :
    Mirrors m (update a (.dict t)) (update (m.address a) (.dict t')) := by
  subst h
  exact mirrors_update a (loose_dict t)

theorem mirrors_lookupOr {find? find?' : Datum → Run (Option Value)}
    (h : ∀ d, Mirrors m (find? d) (find?' (d.moved m))) : Mirrors m (lookupOr find? p) (lookupOr find?' (moved m p)) := by
  refine (p.mirrors_plain 1 2).bind fun values => ?_
  rcases values with _ | ⟨key, fallback⟩
  · exact mirrors_fail _
  · refine (mirrors_asKey key).bind fun d => (h d).bind fun v? => mirrors_pure ?_
    have hstead : (fallback.map (moved m)).headD null = moved m (fallback.headD null) := by
      cases fallback <;> rfl
    cases v? with
    | none => exact hstead
    | some v => rfl

theorem mirrors_withAll : Mirrors m (withAll t v) (withAll (moved m t) (moved m v)) := by
  cases v with
  | absent a => exact mirrors_refuse a
  | _ =>
      refine (mirrors_mapping? _).bind fun entries? => ?_
      cases entries? with
      | some entries => exact mirrors_withEntries entries t
      | none =>
          refine (mirrors_walkOf _).bind fun walk => Mirrors.foldAll (fun t x => ?_) walk t
          exact (mirrors_pairOf x).bind fun e => mirrors_withEntry e.2 t e.1

theorem mirrors_withArgs (args : List Value) :
    Mirrors m (withArgs t args) (withArgs (moved m t) (args.map (moved m))) := by
  refine (Passed.mirrors_plain ⟨args, []⟩ 0 1).bind fun values => ?_
  rcases values with _ | ⟨v, _ | ⟨_, _⟩⟩
  · exact mirrors_pure rfl
  · exact mirrors_withAll t v
  · exact mirrors_pure rfl

theorem mirrors_withPassed : Mirrors m (withPassed t p) (withPassed (moved m t) (moved m p)) := by
  refine (mirrors_withArgs t p.args).bind fun t => ?_
  have hnamed := mirrors_withEntries (m := m) (p.named.map fun n => (.str n.1, n.2)) t
  rw [← asEntries_moved] at hnamed
  exact hnamed

theorem mirrors_standIn (fallback : List Value) :
    Mirrors m (standIn v fallback) (standIn (moved m v) (fallback.map (moved m))) := by
  cases fallback with
  | nil => exact (mirrors_shown v).bind fun _ => mirrors_fail _
  | cons w rest => exact mirrors_pure rfl

theorem mirrors_poppedKey : Mirrors m (poppedKey a t p) (poppedKey (m.address a) (moved m t) (moved m p)) := by
  refine (p.mirrors_plain 1 2).bind fun values => ?_
  rcases values with _ | ⟨key, fallback⟩
  · exact mirrors_fail _
  · have hstead := mirrors_standIn (m := m) key fallback
    simp only [moved_list, List.map_cons, Table.isEmpty_moved]
    refine hstead.ite ((mirrors_asKey key).bind fun d => ?_)
    rw [Datum.moved_eq, Table.find?_moved, Table.erase_moved]
    cases t.find? d with
    | none => exact hstead
    | some v => exact (mirrors_putDict a rfl).bind fun _ => mirrors_pure rfl

theorem mirrors_poppedLast : Mirrors m (poppedLast a t) (poppedLast (m.address a) (moved m t)) := by
  unfold poppedLast
  rw [Table.popLast?_moved]
  cases t.popLast? with
  | none => exact mirrors_fail _
  | some popped => exact (mirrors_putDict a rfl).bind fun _ => mirrors_pure (by simp)

theorem mirrors_setDefault : Mirrors m (setDefault a t p) (setDefault (m.address a) (moved m t) (moved m p)) := by
  refine (p.mirrors_plain 1 2).bind fun values => ?_
  rcases values with _ | ⟨key, fallback⟩
  · exact mirrors_fail _
  · have hstead : (fallback.map (moved m)).headD null = moved m (fallback.headD null) := by
      cases fallback <;> rfl
    refine (mirrors_asKey key).bind fun d => ?_
    rw [Datum.moved_eq, Table.find?_moved]
    cases t.find? d with
    | some v => exact mirrors_pure rfl
    | none =>
        dsimp only [Option.map_none]
        rw [hstead]
        refine (mirrors_withEntry _ t key).bind fun t => ?_
        exact (mirrors_putDict a rfl).bind fun _ => mirrors_pure rfl

theorem mirrors_dictMethod (name : String) :
    Mirrors m (dictMethod a t name p) (dictMethod (m.address a) (moved m t) name (moved m p)) := by
  unfold dictMethod
  split
  · exact mirrors_lookupOr p fun d => mirrors_pure (by simp)
  · exact mirrors_bare p (mirrors_pure rfl)
  · exact mirrors_bare p (mirrors_pure rfl)
  · exact mirrors_bare p (mirrors_pure rfl)
  · exact mirrors_bare p ((mirrors_putDict a (by simp)).bind fun _ => mirrors_pure rfl)
  · have hcopy := mirrors_allocate (m := m) (loose_dict (.ofDistinct t.entries))
    rw [moved_dictCell, ← Table.ofDistinct_moved, ← Table.entries_moved] at hcopy
    exact mirrors_bare p hcopy
  · exact (mirrors_withPassed t p).bind fun t => (mirrors_putDict a rfl).bind fun _ => mirrors_pure rfl
  · exact mirrors_poppedKey a t p
  · exact mirrors_bare p (mirrors_poppedLast a t)
  · exact mirrors_setDefault a t p
  · exact mirrors_fail _

theorem mirrors_partOf (part : Part) : Mirrors m (partOf v part) (partOf (moved m v) part) := by
  cases v with
  | ref a => exact mirrors_pure rfl
  | _ => exact mirrors_fail _

theorem mirrors_ofCopy (name : String) : Mirrors m (ofCopy v name) (ofCopy (moved m v) name) := by
  unfold ofCopy
  split
  · exact mirrors_partOf v .keys
  · exact mirrors_partOf v .values
  · exact mirrors_partOf v .items
  · exact mirrors_pure rfl
  · exact mirrors_fail _

theorem mirrors_viewMethod (name : String) :
    Mirrors m (viewMethod entries name p) (viewMethod (entries.map (moved m)) name (moved m p)) := by
  unfold viewMethod
  split
  · exact mirrors_lookupOr p (mirrors_inView? entries)
  · exact mirrors_bare p ((mirrors_newDict entries).bind fun copy => mirrors_ofCopy copy _)

end Mappings

section Calls

variable (a : Nat) (l : Loop) (items : List Value) (v : Value) (p : Passed)

theorem mirrors_cycled : Mirrors m (cycled l items) (cycled (moved m l) (items.map (moved m))) := by
  cases items with
  | nil => exact mirrors_fail _
  | cons first rest =>
      refine mirrors_pure ?_
      rw [← List.map_cons, List.length_map, List.getElem?_map]
      exact getD_moved moved_null _

theorem mirrors_sameAsBefore :
    Mirrors m (sameAsBefore l items) (sameAsBefore (moved m l) (items.map (moved m))) := by
  rcases l with ⟨all, walk, index, length, after, current, before, _ | old⟩
  · exact mirrors_pure rfl
  · have hsame := mirrors_same (m := m) (.tuple old) (.tuple items)
    rw [moved_tuple, moved_tuple] at hsame
    exact hsame

theorem mirrors_changedSince :
    Mirrors m (changedSince a l items) (changedSince (m.address a) (moved m l) (items.map (moved m))) := by
  refine (mirrors_sameAsBefore l items).bind fun _ => (mirrors_pure rfl).ite ?_
  exact (mirrors_update a (loose_loop _)).bind fun _ => mirrors_pure rfl

theorem mirrors_loopMethod (name : String) :
    Mirrors m (loopMethod a l name p) (loopMethod (m.address a) (moved m l) name (moved m p)) := by
  unfold loopMethod
  rw [Passed.named_moved, List.isEmpty_map, Passed.args_moved]
  refine (mirrors_fail _).ite ?_
  split
  · exact mirrors_cycled l p.args
  · exact mirrors_changedSince a l p.args
  · exact mirrors_fail _

theorem mirrors_tupleMethod (name : String) :
    Mirrors m (tupleMethod items name p) (tupleMethod (items.map (moved m)) name (moved m p)) := by
  unfold tupleMethod
  split
  · exact mirrors_placeIn items p
  · exact mirrors_onOne p fun v => (mirrors_countIn items v).bind fun n => mirrors_pure rfl
  · exact mirrors_fail _

theorem mirrors_callMethod (name : Text) :
    Mirrors m (callMethod v name p) (callMethod (moved m v) name (moved m p)) := by
  cases v with
  | scalar s =>
      cases s with
      | str s => exact mirrors_textMethod false s p _
      | safe s => exact mirrors_textMethod true s p _
      | date d => exact (mirrors_bare p (mirrors_pure rfl)).ite (mirrors_fail _)
      | _ => exact mirrors_fail _
  | tuple items =>
      rw [moved_tuple]
      exact mirrors_tupleMethod items p _
  | view entries =>
      rw [moved_view]
      exact mirrors_viewMethod entries p _
  | ref a =>
      refine (mirrors_cell? a).bind fun c? => ?_
      rcases c? with _ | all | t | _ | _ | _ | _ | l
      · exact mirrors_fail _
      · exact mirrors_listMethod a all p _
      · exact mirrors_dictMethod a t p _
      · exact mirrors_fail _
      · exact mirrors_fail _
      · exact mirrors_fail _
      · exact mirrors_fail _
      · exact mirrors_loopMethod a l p _
  | _ => exact mirrors_fail _

theorem mirrors_newRange (start stop step : Int) : Mirrors m (newRange start stop step) (newRange start stop step) :=
  (mirrors_fail _).ite ((mirrors_fail _).ite (mirrors_pure rfl))

theorem mirrors_rangeOf (bounds : List Int) : Mirrors m (rangeOf bounds) (rangeOf bounds) := by
  rcases bounds with _ | ⟨a, _ | ⟨b, _ | ⟨c, _ | ⟨_, _⟩⟩⟩⟩
  · exact mirrors_fail _
  · exact mirrors_newRange _ _ _
  · exact mirrors_newRange _ _ _
  · exact mirrors_newRange _ _ _
  · exact mirrors_fail _

theorem mirrors_callBuiltin (b : Builtin) : Mirrors m (callBuiltin b p) (callBuiltin b (moved m p)) := by
  have htable : Mirrors m (withPassed .empty p) (withPassed .empty (moved m p)) := by
    simpa using mirrors_withPassed (m := m) .empty p
  cases b with
  | range =>
      refine (p.mirrors_plain 1 3).bind fun values => (Mirrors.mapM mirrors_asIndex values).bind fun bounds => ?_
      rw [moved_list, moved_plain_eq_id, List.map_id]
      exact mirrors_rangeOf bounds
  | dict => exact htable.bind fun t => mirrors_allocate (loose_dict t)
  | «namespace» => exact htable.bind fun t => mirrors_allocate (loose_namespace t)

end Calls

end BraceTemplate.Host.Run
