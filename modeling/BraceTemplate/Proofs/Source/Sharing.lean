import BraceTemplate.Proofs.Flat.Rewrite
import BraceTemplate.Proofs.Single.Parts
import BraceTemplate.Source.Resolver

namespace BraceTemplate.Reference

open Text

-- The parts of a list, without the white space around them.
def items (list : Text) : List Text :=
  (list.split ',').map Text.trim

-- The registry of the last part.
def shared (list : Text) : Text :=
  (parts ((items list).getLastD [])).2

variable {list part reference file registry : Text} {c : Char}

theorem ofList_eq (list : Text) : ofList list = (items list).map (complete (shared list)) := rfl

section Parts

theorem parts_of_not_mem (h : '@' ∉ file) : parts file = (file, []) := by
  rw [parts, split_eq_singleton h]

theorem parts_append_cons (hfile : '@' ∉ file) (hregistry : '@' ∉ registry) :
    parts (file ++ '@' :: registry) = (file, registry) := by
  rw [parts, split_append_cons hfile, split_eq_singleton hregistry]

theorem snd_parts_mem (reference : Text) :
    (parts reference).2 = [] ∨ (parts reference).2 ∈ reference.split '@' := by
  rw [parts]
  split
  · next hsplit => exact .inr (by simp [hsplit])
  · exact .inl rfl
  · exact .inl rfl

theorem sign_not_mem_snd_parts (reference : Text) : '@' ∉ (parts reference).2 := by
  rcases snd_parts_mem reference with h | h
  · rw [h]
    exact List.not_mem_nil
  · exact not_mem_of_mem_split h

theorem mem_of_mem_snd_parts (h : c ∈ (parts reference).2) : c ∈ reference := by
  rcases snd_parts_mem reference with hnil | hpiece
  · simp [hnil] at h
  · exact mem_of_mem_split hpiece h

end Parts

section Complete

theorem complete_of_mem (h : '@' ∈ part) (registry : Text) : complete registry part = part := by
  simp [complete, h]

theorem complete_nil (part : Text) : complete [] part = part := by
  simp [complete]

theorem complete_of_not_mem (h : '@' ∉ part) (hregistry : registry ≠ []) :
    complete registry part = part ++ '@' :: registry := by
  simp [complete, h, hregistry]

-- How a part is read once it has the registry that the list shares.
theorem parts_complete (hregistry : '@' ∉ registry) (part : Text) :
    parts (complete registry part) = if '@' ∈ part then parts part else (part, registry) := by
  split
  · next hpart => rw [complete_of_mem hpart]
  · next hpart =>
    by_cases hnil : registry = []
    · rw [hnil, complete_nil, parts_of_not_mem hpart]
    · rw [complete_of_not_mem hpart hnil, parts_append_cons hpart hregistry]

theorem complete_complete (registry part : Text) :
    complete registry (complete registry part) = complete registry part := by
  by_cases hpart : '@' ∈ part
  · rw [complete_of_mem hpart, complete_of_mem hpart]
  · by_cases hnil : registry = []
    · rw [hnil, complete_nil, complete_nil]
    · rw [complete_of_not_mem hpart hnil, complete_of_mem (by simp)]

theorem mem_of_mem_complete (h : c ∈ complete registry part) : c ∈ part ∨ c = '@' ∨ c ∈ registry := by
  unfold complete at h
  split at h
  · exact .inl h
  · simpa using h

end Complete

section Items

theorem items_ne_nil (list : Text) : items list ≠ [] := by
  simp [items, split_ne_nil]

theorem getLastD_items (list : Text) : (items list).getLastD [] = (items list).getLast (items_ne_nil list) := by
  rw [List.getLastD_eq_getLast?, List.getLast?_eq_some_getLast (items_ne_nil list), Option.getD_some]

theorem mem_of_mem_items (h : part ∈ items list) (hc : c ∈ part) : c ∈ list ∧ c ≠ ',' := by
  obtain ⟨piece, hpiece, rfl⟩ := List.mem_map.mp h
  have hm := mem_of_mem_trim hc
  refine ⟨mem_of_mem_split hpiece hm, ?_⟩
  rintro rfl
  exact not_mem_of_mem_split hpiece hm

-- Beside the sign nothing gets into a reference that is not in the parts of the list.
theorem mem_of_mem_ofList (h : reference ∈ ofList list) (hc : c ∈ reference) :
    c = '@' ∨ c ∈ list ∧ c ≠ ',' := by
  obtain ⟨part, hpart, rfl⟩ := List.mem_map.mp h
  rcases mem_of_mem_complete hc with hc | hc | hc
  · exact .inr (mem_of_mem_items hpart hc)
  · exact .inl hc
  · have hlast : c ∈ (items list).getLastD [] := mem_of_mem_snd_parts hc
    rw [getLastD_items] at hlast
    exact .inr (mem_of_mem_items (List.getLast_mem _) hlast)

-- Joined again, the references of a list without white space are its parts.
theorem items_join_ofList (h : ∀ c ∈ list, isBlank c = false) :
    items (join [','] (ofList list)) = ofList list := by
  have hne : ofList list ≠ [] := by simp [ofList_eq, items_ne_nil]
  have hcomma : ∀ reference ∈ ofList list, ',' ∉ reference := by
    intro reference hm hc
    rcases mem_of_mem_ofList hm hc with hsign | ⟨-, hne⟩
    · cases hsign
    · exact hne rfl
  have hblank : ∀ reference ∈ ofList list, Text.trim reference = reference := by
    refine fun reference hm => trim_eq_self_of_forall fun c hc => ?_
    rcases mem_of_mem_ofList hm hc with rfl | ⟨hlist, -⟩
    · decide
    · exact h c hlist
  rw [items, split_join hne hcomma, List.map_congr_left hblank, List.map_id']

theorem sign_not_mem_shared (list : Text) : '@' ∉ shared list :=
  sign_not_mem_snd_parts _

-- The last reference has the registry that was shared.
theorem snd_parts_last_ofList (list : Text) : (parts ((ofList list).getLastD [])).2 = shared list := by
  have hlast : (ofList list).getLastD [] = complete (shared list) ((items list).getLastD []) := by
    rw [getLastD_items, List.getLastD_eq_getLast?, ofList_eq, List.getLast?_map,
      List.getLast?_eq_some_getLast (items_ne_nil list), Option.map_some, Option.getD_some]
  rw [hlast, parts_complete (sign_not_mem_shared list)]
  split <;> rfl

end Items

-- A list becomes one reference for each of its parts, in their order. A part with a sign is read as it is, and
-- any other is the file in the registry of the last part. Without white space the references make up a list of
-- themselves.
theorem ofList_shares (list : Text) :
    (ofList list).map parts =
        (items list).map (fun part => if '@' ∈ part then parts part else (part, shared list)) ∧
      ((∀ c ∈ list, isBlank c = false) → ofList (join [','] (ofList list)) = ofList list) := by
  constructor
  · rw [ofList_eq, List.map_map]
    exact List.map_congr_left fun part _ => parts_complete (sign_not_mem_shared list) part
  · intro h
    have hitems := items_join_ofList h
    have hshared : shared (join [','] (ofList list)) = shared list := by
      rw [shared, hitems, snd_parts_last_ofList]
    calc ofList (join [','] (ofList list))
      _ = (ofList list).map (complete (shared list)) := by rw [ofList_eq (join _ _), hitems, hshared]
      _ = (items list).map (complete (shared list)) := by
          rw [ofList_eq, List.map_map]
          exact List.map_congr_left fun part _ => complete_complete (shared list) part
      _ = ofList list := rfl

-- An empty part, and one with two signs of which the second counts for nothing.
theorem ofList_shares_empty :
    (ofList "a,b@x@y,,c@t".toList).map parts =
        [("a".toList, "t".toList), ("b".toList, "x".toList), ([], "t".toList), ("c".toList, "t".toList)] ∧
      (∀ c ∈ "a,b@x@y,,c@t".toList, isBlank c = false) ∧
      join [','] (ofList "a,b@x@y,,c@t".toList) = "a@t,b@x@y,@t,c@t".toList ∧
      ofList "a@t,b@x@y,@t,c@t".toList = ofList "a,b@x@y,,c@t".toList := by
  obtain ⟨hparts, hagain⟩ := ofList_shares "a,b@x@y,,c@t".toList
  have hblank : ∀ c ∈ "a,b@x@y,,c@t".toList, isBlank c = false := by decide
  have hjoin : join [','] (ofList "a,b@x@y,,c@t".toList) = "a@t,b@x@y,@t,c@t".toList := by decide
  exact ⟨hparts.trans (by decide), hblank, hjoin, hjoin ▸ hagain hblank⟩

-- With white space in its registry a list of references need not be one of the same references.
example : ofList "a,b@ @c".toList = ["a@ ".toList, "b@ @c".toList] ∧
    ofList (join [','] (ofList "a,b@ @c".toList)) = ["a@".toList, "b@ @c".toList] := by decide

end BraceTemplate.Reference
