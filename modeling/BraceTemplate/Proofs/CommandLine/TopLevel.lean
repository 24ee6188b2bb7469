import BraceTemplate.CommandLine.DataFile
import BraceTemplate.Proofs.Move.Load
import BraceTemplate.Settings.Load

namespace BraceTemplate

namespace Datum

def isMapping : Datum → Bool
  | .dict _ => true
  | _ => false

variable {m : Host.Move}

@[simp]
theorem isMapping_moved (d : Datum) : (d.moved m).isMapping = d.isMapping := by
  cases d <;> rfl

@[simp]
theorem truth_moved (d : Datum) : (d.moved m).truth = d.truth := by
  cases d with
  | scalar s => exact s.truth_moved
  | list items => cases items <;> rfl
  | tuple items => cases items <;> rfl
  | set frozen items => cases items <;> rfl
  | dict entries => cases entries <;> rfl
  | view entries => cases entries <;> rfl
  | other kind identity shown => rfl

end Datum

namespace Yaml

-- The value of the document in a file, if the file spells one.
def document? (bytes : Bytes) : Option Datum :=
  (Utf8.decode? bytes).bind fun s => (loadDatum (normalNewlines s)).toOption

theorem document?_eq_some_iff {bytes : Bytes} {d : Datum} :
    document? bytes = some d ↔ ∃ s, Utf8.decode? bytes = some s ∧ loadDatum (normalNewlines s) = .ok d := by
  unfold document?
  rw [Option.bind_eq_some_iff]
  refine exists_congr fun s => and_congr_right fun _ => ?_
  cases loadDatum (normalNewlines s) <;> simp [Except.toOption]

-- What holds of the value of a given file is found by evaluation.
theorem exists_document? (bytes : Bytes) (p : Datum → Prop) [DecidablePred p]
    (h : (document? bytes).any (fun d => decide (p d)) = true) : ∃ d, document? bytes = some d ∧ p d := by
  cases hd : document? bytes with
  | none =>
      rw [hd] at h
      cases h
  | some d =>
      rw [hd] at h
      exact ⟨d, rfl, of_decide_eq_true h⟩

end Yaml

namespace Host.Store

variable {store : Store} {a : Nat}

theorem isMapping_reify_of_dict {t : Table Value} (h : store.find? a = some (.dict t)) :
    (store.reify (.ref a)).isMapping = true := by
  change (store.deref (store.cells.size + 1) [] a).isMapping = true
  rw [deref, h]
  rfl

theorem isMapping_reify_of_not_dict (h : ∀ t, store.find? a ≠ some (.dict t)) :
    (store.reify (.ref a)).isMapping = false := by
  change (store.deref (store.cells.size + 1) [] a).isMapping = false
  rw [deref]
  rcases hcell : store.find? a with _ | _ | t | _ | _ | _ | _ | _
  case some.dict => exact absurd hcell (h t)
  all_goals rfl

-- The keys, the values or the entries of a mapping are none themselves.
theorem isMapping_reify_part (p : Part) : (store.reify (.part p a)).isMapping = false := by
  change Datum.isMapping (match store.deref (store.cells.size + 1) [] a with
    | .dict entries => .other (partKind p) a (shownPart p entries)
    | d => d) = false
  cases store.deref (store.cells.size + 1) [] a <;> rfl

end Host.Store

namespace DataFile

variable {store : Host.Store} {v : Host.Value}

theorem entries?_of_not_mapping (h : (store.reify v).isMapping = false) :
    entries? store v = if (store.reify v).truth then none else some [] := by
  cases v with
  | ref a =>
      unfold entries?
      dsimp only
      split
      · next t hcell =>
          rw [Host.Store.isMapping_reify_of_dict hcell] at h
          cases h
      · rfl
  | _ => rfl

theorem isSome_entries?_of_mapping (h : (store.reify v).isMapping = true) : (entries? store v).isSome := by
  cases v with
  | ref a =>
      unfold entries?
      dsimp only
      split
      · rfl
      · next hcell =>
          rw [Host.Store.isMapping_reify_of_not_dict hcell] at h
          cases h
  | part p a =>
      rw [Host.Store.isMapping_reify_part] at h
      cases h
  | builtin b => cases b <;> cases h
  | _ => cases h

end DataFile

section TopLevel

variable {bytes : Bytes} {d : Datum} {path : Path}

theorem topEntries?_of_not_mapping (h : d.isMapping = false) :
    topEntries? d = if d.truth then none else some [] := by
  cases d with
  | dict entries => cases h
  | _ => rfl

theorem isSome_topEntries?_of_mapping (h : d.isMapping = true) : (topEntries? d).isSome := by
  cases d with
  | dict entries => rfl
  | _ => cases h

namespace Settings

theorem load_of_document (h : Yaml.document? bytes = some d) :
    load path (some bytes) = (topEntries? d).elim (.error (.notMapping path)) fun entries =>
      match ofEntries entries with
      | .error issues => .error (.invalid path issues)
      | .ok settings => .ok (settings.inside path.parent) := by
  obtain ⟨s, hs, hd⟩ := Yaml.document?_eq_some_iff.mp h
  simp only [load, hs, ofText, hd]
  cases topEntries? d <;> rfl

theorem load_of_not_mapping (h : Yaml.document? bytes = some d) (hd : d.isMapping = false) :
    load path (some bytes) = if d.truth then .error (.notMapping path) else .ok .default := by
  rw [load_of_document h, topEntries?_of_not_mapping hd]
  cases d.truth <;> rfl

theorem load_eq_notMapping_iff (h : Yaml.document? bytes = some d) :
    load path (some bytes) = .error (.notMapping path) ↔ d.isMapping = false ∧ d.truth = true := by
  cases hd : d.isMapping with
  | false =>
      rw [load_of_not_mapping h hd]
      cases d.truth <;> simp
  | true =>
      obtain ⟨entries, hentries⟩ := Option.isSome_iff_exists.mp (isSome_topEntries?_of_mapping hd)
      rw [load_of_document h, hentries, Option.elim_some]
      cases ofEntries entries <;> simp

end Settings

namespace DataFile

variable (store : Host.Store)

-- What a file spells is put into the store that there is already.
theorem exists_load_of_document (h : Yaml.document? bytes = some d) (path : Path) :
    ∃ v later, (later.reify v).isMapping = d.isMapping ∧ (later.reify v).truth = d.truth ∧
      load path (some bytes) store = (entries? later v).elim (.error (.notMapping path)) fun entries =>
        .ok (entries, later) := by
  obtain ⟨s, hs, hd⟩ := Yaml.document?_eq_some_iff.mp h
  obtain ⟨v, later, hload, hreify⟩ := Yaml.exists_load_of_loadDatum hd store
  refine ⟨v, later, by rw [hreify, Datum.isMapping_moved], by rw [hreify, Datum.truth_moved], ?_⟩
  simp only [load, hs, ofText, hload]
  cases entries? later v <;> rfl

theorem load_eq_notMapping_iff (h : Yaml.document? bytes = some d) :
    load path (some bytes) store = .error (.notMapping path) ↔ d.isMapping = false ∧ d.truth = true := by
  obtain ⟨v, later, hmapping, htruth, hload⟩ := exists_load_of_document store h path
  rw [hload]
  cases hd : d.isMapping with
  | false =>
      rw [entries?_of_not_mapping (hmapping.trans hd), htruth]
      cases d.truth <;> simp
  | true =>
      obtain ⟨entries, hentries⟩ := Option.isSome_iff_exists.mp (isSome_entries?_of_mapping (hmapping.trans hd))
      rw [hentries]
      simp

theorem exists_load_of_not_truth (h : Yaml.document? bytes = some d) (hd : d.isMapping = false)
    (hfalse : d.truth = false) : ∃ later, load path (some bytes) store = .ok ([], later) := by
  obtain ⟨v, later, hmapping, htruth, hload⟩ := exists_load_of_document store h path
  rw [entries?_of_not_mapping (hmapping.trans hd), htruth, hfalse] at hload
  exact ⟨later, hload⟩

end DataFile

-- What both loaders say of a document that they refuse.
def refusal (path : Path) : Text :=
  path.text ++ " must contain a mapping at the top level".toList

-- Both loaders refuse a document exactly when its value is no mapping and counts as true. Every other value
-- that is no mapping, be it null or not, is read as if the file were empty.
theorem load_refuses_iff (path : Path) (store : Host.Store) (h : Yaml.document? bytes = some d) :
    (Settings.load path (some bytes) = .error (.notMapping path) ↔ d.isMapping = false ∧ d.truth = true) ∧
      (DataFile.load path (some bytes) store = .error (.notMapping path) ↔
        d.isMapping = false ∧ d.truth = true) ∧
      (d.isMapping = false → d.truth = false →
        Settings.load path (some bytes) = .ok .default ∧
          ∃ later, DataFile.load path (some bytes) store = .ok ([], later)) ∧
      (SettingsError.notMapping path).message? = some (refusal path) ∧
      (DataError.notMapping path).message? = some (refusal path) := by
  refine ⟨Settings.load_eq_notMapping_iff h, DataFile.load_eq_notMapping_iff store h, fun hd hfalse => ?_, rfl, rfl⟩
  refine ⟨?_, DataFile.exists_load_of_not_truth store h hd hfalse⟩
  rw [Settings.load_of_not_mapping h hd, hfalse]
  rfl

-- A list with an item is refused.
theorem load_refuses_iff_oneItem :
    ∃ d, Yaml.document? (Utf8.encode "- x".toList) = some d ∧ d.typeName = "list".toList ∧
      Settings.load (.ofText "tagplate.yaml".toList) (some (Utf8.encode "- x".toList)) =
        .error (.notMapping (.ofText "tagplate.yaml".toList)) ∧
      DataFile.load (.ofText "data.yaml".toList) (some (Utf8.encode "- x".toList)) .empty =
        .error (.notMapping (.ofText "data.yaml".toList)) := by
  obtain ⟨d, h, htype, hd, htruth⟩ := Yaml.exists_document? (Utf8.encode "- x".toList)
    (fun d => d.typeName = "list".toList ∧ d.isMapping = false ∧ d.truth = true) (by decide +kernel)
  refine ⟨d, h, htype, ?_, ?_⟩
  · exact (load_refuses_iff (.ofText "tagplate.yaml".toList) .empty h).1.mpr ⟨hd, htruth⟩
  · exact (load_refuses_iff (.ofText "data.yaml".toList) .empty h).2.1.mpr ⟨hd, htruth⟩

-- A list without items is accepted, though it is no mapping either.
theorem load_accepts_noItem :
    ∃ d, Yaml.document? (Utf8.encode "[]".toList) = some d ∧ d.typeName = "list".toList ∧
      Settings.load (.ofText "tagplate.yaml".toList) (some (Utf8.encode "[]".toList)) = .ok .default ∧
      ∃ later, DataFile.load (.ofText "data.yaml".toList) (some (Utf8.encode "[]".toList)) .empty =
        .ok ([], later) := by
  obtain ⟨d, h, htype, hd, hfalse⟩ := Yaml.exists_document? (Utf8.encode "[]".toList)
    (fun d => d.typeName = "list".toList ∧ d.isMapping = false ∧ d.truth = false) (by decide +kernel)
  refine ⟨d, h, htype, ?_, DataFile.exists_load_of_not_truth .empty h hd hfalse⟩
  rw [Settings.load_of_not_mapping h hd, hfalse]
  rfl

end TopLevel

end BraceTemplate
