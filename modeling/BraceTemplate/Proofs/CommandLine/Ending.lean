import BraceTemplate.CommandLine.Run
import BraceTemplate.Proofs.Engine.Transparent
import BraceTemplate.Proofs.Insertion.Failing

namespace BraceTemplate

-- Errors that the template language itself raises. All others come from values, numbers and limits of what runs
-- a template.
def Host.Error.IsOwn : Host.Error → Prop
  | .malformed | .unprepared _ | .undefined _ | .forbidden _ | .refused _ | .badFilterArgument _ => True
  | _ => False

instance (e : Host.Error) : Decidable e.IsOwn := by
  unfold Host.Error.IsOwn
  split <;> infer_instance

namespace CommandLine

open Engine (Asked)

-- Errors that nothing stops: settings, data or a template that are no text, documents that are broken, and what
-- goes wrong with tags, room and values.
inductive CommandError.Unstopped : CommandError → Prop where
  | settingsNotText : Unstopped (.settings .notText)
  | settingsBroken (fault : Yaml.Fault) : Unstopped (.settings (.broken fault))
  | dataNotText : Unstopped (.data .notText)
  | dataBroken (fault : Yaml.Fault) : Unstopped (.data (.broken fault))
  | assignmentBroken (fault : Yaml.Fault) : Unstopped (.assignment (.unreadable fault))
  | sourceNotText (path : Path) : Unstopped (.notText path)
  | templateNotText (path : Path) : Unstopped (.engine (.compile (.unreadable (.notText path))))
  | outOfRoom : Unstopped (.engine (.compile .outOfRoom))
  | badTag (cause : TagError) : Unstopped (.engine (.compile (.badTag cause)))
  | run {cause : Host.Error} (h : ¬ cause.IsOwn) : Unstopped (.engine (.run cause))

-- The template that a command is asked for. A file is read at once, a reference only when it is compiled.
def asked (d : Disk) (t : Template) : Except CommandError Asked :=
  if t.fromFile then (readText d (Path.ofText t.reference)).map .text else .ok (.file t.reference)

-- How a command fails: in the first of its stages that does.
inductive Command.Fails (d : Disk) : Command → CommandError → Prop where
  | settings {t data output debug e} (h : loadSettings d t.config = .error e) :
      Fails d (.render t data output debug) e
  | data {t data output debug engine e} (hengine : engineFor d t debug = .ok engine)
      (h : loadData d data.file engine.store = .error e) : Fails d (.render t data output debug) e
  | assignment {t data output debug engine loaded cause} (hengine : engineFor d t debug = .ok engine)
      (hdata : loadData d data.file engine.store = .ok loaded)
      (h : Assignment.read data.assignments loaded.2 = .error cause) :
      Fails d (.render t data output debug) (.assignment cause)
  | source {t data output debug engine bound e} (hengine : engineFor d t debug = .ok engine)
      (hbound : bindData d data engine = .ok bound) (h : asked d t = .error e) :
      Fails d (.render t data output debug) e
  | template {t data output debug engine bound a cause} (hengine : engineFor d t debug = .ok engine)
      (hbound : bindData d data engine = .ok bound) (hasked : asked d t = .ok a)
      (h : bound.make d.files a = .error cause) : Fails d (.render t data output debug) (.engine (.compile cause))
  | run {t data output debug engine bound a text cause} (hengine : engineFor d t debug = .ok engine)
      (hbound : bindData d data engine = .ok bound) (hasked : asked d t = .ok a)
      (hmake : bound.make d.files a = .ok text)
      (h : (bound.renderer.render (.str text) bound.bindings bound.store).1 = .error cause) :
      Fails d (.render t data output debug) (.engine (.run cause))
  | compileSettings {t e} (h : loadSettings d t.config = .error e) : Fails d (.compile t) e
  | compileSource {t engine e} (hengine : engineFor d t true = .ok engine) (h : asked d t = .error e) :
      Fails d (.compile t) e
  | compileTemplate {t engine a cause} (hengine : engineFor d t true = .ok engine) (hasked : asked d t = .ok a)
      (h : engine.make d.files a = .error cause) : Fails d (.compile t) (.engine (.compile cause))

section Stages

variable {ε ε' α β : Type} {d : Disk} {t : Template} {data : Data} {output : Option Path} {debug : Bool}
  {e : CommandError}

theorem bind_eq_error_iff {x : Except ε α} {f : α → Except ε β} {cause : ε} :
    x >>= f = .error cause ↔ x = .error cause ∨ ∃ a, x = .ok a ∧ f a = .error cause := by
  cases x <;> simp [bind, Except.bind]

theorem mapError_eq_error_iff {x : Except ε α} {f : ε → ε'} {cause : ε'} :
    x.mapError f = .error cause ↔ ∃ first, x = .error first ∧ f first = cause := by
  cases x <;> simp [Except.mapError]

theorem map_eq_error_iff {x : Except ε α} {f : α → β} {cause : ε} :
    x.map f = .error cause ↔ x = .error cause := by
  cases x <;> simp [Except.map]

theorem engineFor_eq_error_iff : engineFor d t debug = .error e ↔ loadSettings d t.config = .error e := by
  simp [engineFor, bind_eq_error_iff]

theorem bindData_eq_error_iff {engine : Engine} : bindData d data engine = .error e ↔
    loadData d data.file engine.store = .error e ∨
      ∃ loaded cause, loadData d data.file engine.store = .ok loaded ∧
        Assignment.read data.assignments loaded.2 = .error cause ∧ CommandError.assignment cause = e := by
  simp [bindData, bind_eq_error_iff, mapError_eq_error_iff]

-- An engine of a command has no cache and no extensions, and binding data leaves it so.
theorem engineFor_bare {engine : Engine} (h : engineFor d t debug = .ok engine) :
    engine.shelf.active = none ∧ engine.compiler.extensions = [] := by
  unfold engineFor at h
  cases hsettings : loadSettings d t.config with
  | error e => rw [hsettings] at h; cases h
  | ok settings =>
      rw [hsettings] at h
      obtain rfl := Except.ok.inj h
      refine ⟨?_, rfl⟩
      unfold Engine.ofSettings Shelf.active
      split <;> rfl

theorem bindData_keeps {engine bound : Engine} (h : bindData d data engine = .ok bound) :
    bound.shelf = engine.shelf ∧ bound.compiler = engine.compiler := by
  unfold bindData at h
  cases hload : loadData d data.file engine.store with
  | error e => rw [hload] at h; cases h
  | ok loaded =>
      cases hread : Assignment.read data.assignments loaded.2 with
      | error e => simp [hload, hread, Except.bind, bind, Except.mapError] at h
      | ok assigned =>
          simp [hload, hread, Except.bind, bind, Except.mapError] at h
          obtain rfl := h
          exact ⟨rfl, rfl⟩

-- What an engine without cache shows.
theorem outcome_render {engine : Engine} (h : engine.shelf.active = none) (fs : FileSystem) (a : Asked) :
    (engine.render a.identity (fun _ => engine.make fs a) []).1.outcome =
      (engine.shown [] (engine.make fs a)).1.outcome := by
  rw [Engine.render_eq_shown (Shelf.fetches_of_inactive h a.identity fun _ => engine.make fs a).1,
    Engine.shown_shelf]

theorem renderedText_eq : renderedText d t data debug = (do
    let bound ← bindData d data (← engineFor d t debug)
    let a ← asked d t
    (bound.render a.identity (fun _ => bound.make d.files a) []).1.outcome.mapError .engine) := by
  unfold renderedText asked
  cases engineFor d t debug with
  | error e => rfl
  | ok engine =>
      cases hbound : bindData d data engine with
      | error e => simp [bind, Except.bind, hbound]
      | ok bound =>
          simp only [bind, Except.bind, hbound]
          split
          · cases readText d (Path.ofText t.reference) <;> rfl
          · rfl

theorem compiledText_eq : compiledText d t = (do
    let engine ← engineFor d t true
    let a ← asked d t
    (engine.make d.files a).mapError fun cause => .engine (.compile cause)) := by
  unfold compiledText asked
  cases engineFor d t true with
  | error e => rfl
  | ok engine =>
      simp only [bind, Except.bind]
      split
      · cases readText d (Path.ofText t.reference) <;> rfl
      · rfl

theorem compiledText_eq_error_iff : compiledText d t = .error e ↔ Command.Fails d (.compile t) e := by
  rw [compiledText_eq]
  simp only [bind_eq_error_iff, engineFor_eq_error_iff, mapError_eq_error_iff]
  constructor
  · rintro (h | ⟨engine, hengine, h | ⟨a, hasked, cause, h, rfl⟩⟩)
    · exact .compileSettings h
    · exact .compileSource hengine h
    · exact .compileTemplate hengine hasked h
  · intro h
    cases h with
    | compileSettings h => exact .inl h
    | compileSource hengine h => exact .inr ⟨_, hengine, .inl h⟩
    | compileTemplate hengine hasked h => exact .inr ⟨_, hengine, .inr ⟨_, hasked, _, h, rfl⟩⟩

theorem outcome_shown_eq_error_iff {engine : Engine} {made : Except CompileError Text} {cause : EngineError} :
    (engine.shown [] made).1.outcome = .error cause ↔
      (∃ fault, made = .error fault ∧ EngineError.compile fault = cause) ∨
      ∃ text fault, made = .ok text ∧
        (engine.renderer.render (.str text) engine.bindings engine.store).1 = .error fault ∧
        EngineError.run fault = cause := by
  cases made with
  | error fault => simp [Engine.shown]
  | ok text =>
      show (Except.mapError _ (engine.renderer.render (.str text) engine.bindings engine.store).1) = _ ↔ _
      simp [mapError_eq_error_iff]

theorem renderedText_eq_error_iff :
    renderedText d t data debug = .error e ↔ Command.Fails d (.render t data output debug) e := by
  rw [renderedText_eq]
  simp only [bind_eq_error_iff, engineFor_eq_error_iff, mapError_eq_error_iff]
  constructor
  · rintro (h | ⟨engine, hengine, h | ⟨bound, hbound, h | ⟨a, hasked, cause, h, rfl⟩⟩⟩)
    · exact .settings h
    · rcases bindData_eq_error_iff.mp h with hload | ⟨loaded, cause, hload, hread, rfl⟩
      · exact .data hengine hload
      · exact .assignment hengine hload hread
    · exact .source hengine hbound h
    · have hbare : bound.shelf.active = none := (bindData_keeps hbound).1 ▸ (engineFor_bare hengine).1
      rw [outcome_render hbare, outcome_shown_eq_error_iff] at h
      rcases h with ⟨fault, hmake, rfl⟩ | ⟨text, fault, hmake, hrun, rfl⟩
      · exact .template hengine hbound hasked hmake
      · exact .run hengine hbound hasked hmake hrun
  · have hstage {engine bound : Engine} {a : Asked} (hengine : engineFor d t debug = .ok engine)
        (hbound : bindData d data engine = .ok bound) :
        (bound.render a.identity (fun _ => bound.make d.files a) []).1.outcome =
          (bound.shown [] (bound.make d.files a)).1.outcome :=
      outcome_render ((bindData_keeps hbound).1 ▸ (engineFor_bare hengine).1) d.files a
    intro h
    cases h with
    | settings h => exact .inl h
    | data hengine h => exact .inr ⟨_, hengine, .inl (bindData_eq_error_iff.mpr (.inl h))⟩
    | assignment hengine hdata h =>
        exact .inr ⟨_, hengine, .inl (bindData_eq_error_iff.mpr (.inr ⟨_, _, hdata, h, rfl⟩))⟩
    | source hengine hbound h => exact .inr ⟨_, hengine, .inr ⟨_, hbound, .inl h⟩⟩
    | template hengine hbound hasked h =>
        refine .inr ⟨_, hengine, .inr ⟨_, hbound, .inr ⟨_, hasked, _, ?_, rfl⟩⟩⟩
        rw [hstage hengine hbound, outcome_shown_eq_error_iff]
        exact .inl ⟨_, h, rfl⟩
    | run hengine hbound hasked hmake h =>
        refine .inr ⟨_, hengine, .inr ⟨_, hbound, .inr ⟨_, hasked, _, ?_, rfl⟩⟩⟩
        rw [hstage hengine hbound, outcome_shown_eq_error_iff]
        exact .inr ⟨_, _, hmake, h, rfl⟩

end Stages

section Reports

variable {d : Disk} {c : Command} {e : CommandError}

theorem isSome_runReport? (cause : Host.Error) : (runReport? cause).isSome = true ↔ cause.IsOwn := by
  cases cause <;> simp [runReport?, Host.Error.message?, Host.Error.IsOwn]

-- No extension is at work in a command, so no replacement is at fault.
theorem Command.Fails.ne_badReplacement (h : c.Fails d e) (cause : ReplacementError) :
    e ≠ .engine (.compile (.badReplacement cause)) := by
  have hmade {engine : Engine} (hbare : engine.compiler.extensions = []) {a : Asked} {fault : CompileError}
      (hmake : engine.make d.files a = .error fault) : fault ≠ .badReplacement cause := by
    rintro rfl
    cases a with
    | text source => nomatch Compiler.failing_of_compile hbare hmake
    | file reference =>
        rcases bind_eq_error_iff.mp hmake with h | ⟨source, -, h⟩
        · obtain ⟨_, -, h⟩ := mapError_eq_error_iff.mp h
          cases h
        · nomatch Compiler.failing_of_compile hbare h
  rintro rfl
  cases h with
  | settings h | compileSettings h =>
      unfold loadSettings at h
      split at h <;> simp [bind_eq_error_iff, mapError_eq_error_iff] at h
  | data _ h =>
      unfold loadData at h
      split at h <;> simp [bind_eq_error_iff, mapError_eq_error_iff] at h
  | source _ _ h | compileSource _ h =>
      unfold asked at h
      split at h
      · rw [map_eq_error_iff, readText, bind_eq_error_iff] at h
        rcases h with h | ⟨content, -, h⟩
        · simp [mapError_eq_error_iff] at h
        · split at h <;> simp at h
      · cases h
  | template hengine hbound _ h =>
      exact hmade ((bindData_keeps hbound).2 ▸ (engineFor_bare hengine).2) h rfl
  | compileTemplate hengine _ h => exact hmade (engineFor_bare hengine).2 h rfl

-- What fails is reported, or it is an item that is no assignment, or nothing stops it.
theorem report?_eq_none_iff (h : ∀ cause, e ≠ .engine (.compile (.badReplacement cause))) :
    e.report? = none ↔ e.Unstopped ∨ ∃ item, e = .assignment (.notAssignment item) := by
  constructor
  · intro hnone
    cases e with
    | disk cause => cases hnone
    | settings cause =>
        cases cause with
        | notText => exact .inl .settingsNotText
        | broken fault => exact .inl (.settingsBroken fault)
        | _ => cases hnone
    | data cause =>
        cases cause with
        | notText => exact .inl .dataNotText
        | broken fault => exact .inl (.dataBroken fault)
        | _ => cases hnone
    | assignment cause =>
        cases cause with
        | notAssignment item => exact .inr ⟨item, rfl⟩
        | unreadable fault => exact .inl (.assignmentBroken fault)
    | notText path => exact .inl (.sourceNotText path)
    | engine cause =>
        cases cause with
        | run cause =>
            refine .inl (.run fun hown => ?_)
            have hsome := (isSome_runReport? cause).mpr hown
            rw [show runReport? cause = none from hnone] at hsome
            cases hsome
        | compile cause =>
            cases cause with
            | unreadable cause =>
                cases cause with
                | notText path => exact .inl (.templateNotText path)
                | _ => cases hnone
            | tooDeep reference limit => cases hnone
            | outOfRoom => exact .inl .outOfRoom
            | badTag cause => exact .inl (.badTag cause)
            | badReplacement cause => exact absurd rfl (h cause)
  · rintro (hstops | ⟨item, rfl⟩)
    · cases hstops with
      | run hown =>
          refine Option.not_isSome_iff_eq_none.mp fun hsome => hown ((isSome_runReport? _).mp hsome)
      | _ => rfl
    · rfl

end Reports

section Plain

theorem plain_cons {c : Char} (h : c ≠ '\x1b') (s : Text) : plain (c :: s) = c :: plain s := by
  have hscan : Piece.scan controlSequence (c :: s) = .char c :: Piece.scan controlSequence s := by
    have hnone : controlSequence none (c :: s) = none := by
      unfold controlSequence
      split
      · next heq => exact absurd (List.cons.inj heq).1 h
      · rfl
    -- the character before a place is not looked at
    have hbefore : ∀ fuel before, Piece.scanFrom controlSequence fuel before s =
        Piece.scanFrom controlSequence fuel none s := by
      intro fuel before
      cases s <;> cases fuel <;> rfl
    rw [Piece.scan, List.length_cons, Piece.scanFrom, hnone]
    exact congrArg _ (hbefore _ _)
  rw [plain, hscan]
  rfl

-- What is written about an error that is reported begins with the same word each time.
theorem errorLine_reported (message : Text) :
    (Outcome.reported message).errorLine = "Error: ".toList ++ plain message := by
  show plain ('E' :: 'r' :: 'r' :: 'o' :: 'r' :: ':' :: ' ' :: message) = _
  simp only [plain_cons (c := 'E') (by decide), plain_cons (c := 'r') (by decide),
    plain_cons (c := 'o') (by decide), plain_cons (c := ':') (by decide), plain_cons (c := ' ') (by decide)]
  rfl

end Plain

-- What a command comes to before anything is written.
def Command.text (d : Disk) : Command → Except CommandError Text
  | .version => .ok versionText
  | .help => .ok helpText
  | .compile t => compiledText d t
  | .render t data _ debug => renderedText d t data debug

def Command.output? : Command → Option Path
  | .render _ _ output _ => output
  | _ => none

theorem Command.run_eq (c : Command) (d : Disk) : c.run d =
    match c.text d with
    | .ok text => deliver text c.output? d
    | .error e => (.ofError e, d) := by
  cases c with
  | version => rfl
  | help => rfl
  | compile t => unfold run text; cases compiledText d t <;> rfl
  | render t data output debug => unfold run text; cases renderedText d t data debug <;> rfl

theorem Command.text_eq_error_iff {c : Command} {d : Disk} {e : CommandError} :
    c.text d = .error e ↔ c.Fails d e := by
  cases c with
  | version => exact ⟨fun h => (nomatch h), fun h => (nomatch h)⟩
  | help => exact ⟨fun h => (nomatch h), fun h => (nomatch h)⟩
  | compile t => exact compiledText_eq_error_iff
  | render t data output debug => exact renderedText_eq_error_iff

-- Whether a text can be written where a command puts it.
def Writes (d : Disk) (text : Text) (output : Option Path) : Prop :=
  ∀ path, output = some path →
    ((do Disk.makeDirectories path.parent; Disk.write path (Utf8.encode text) : DiskChange Unit).run d).1 = .ok ()

section Ends

variable {d : Disk} {c : Command} {e : CommandError} {text : Text} {output : Option Path}

theorem exitCode?_deliver (d : Disk) (text : Text) (output : Option Path) :
    (Writes d text output ∧ (deliver text output d).1.exitCode? = some 0) ∨
      ¬ Writes d text output ∧ (deliver text output d).1.exitCode? = none := by
  cases output with
  | none => exact .inl ⟨fun _ h => (nomatch h), rfl⟩
  | some path =>
      have hwrites : Writes d text (some path) ↔ ((do
          Disk.makeDirectories path.parent
          Disk.write path (Utf8.encode text) : DiskChange Unit).run d).1 = .ok () :=
        ⟨fun h => h path rfl, fun h other hother => Option.some.inj hother ▸ h⟩
      rw [hwrites]
      unfold deliver
      dsimp only
      split
      · next hrun => exact .inl ⟨by rw [hrun], rfl⟩
      · next hrun => exact .inr ⟨by rw [hrun]; exact fun h => (nomatch h), rfl⟩

theorem exitCode?_ofError (h : c.Fails d e) :
    (e.Unstopped ∧ (Outcome.ofError e).exitCode? = none) ∨
      (∃ item, e = .assignment (.notAssignment item)) ∧ (Outcome.ofError e).exitCode? = some 2 ∨
      (¬ e.Unstopped ∧ ∀ item, e ≠ .assignment (.notAssignment item)) ∧
        ∃ message, Outcome.ofError e = .reported message := by
  have hnone := report?_eq_none_iff h.ne_badReplacement
  by_cases hitem : ∃ item, e = .assignment (.notAssignment item)
  · obtain ⟨item, rfl⟩ := hitem
    exact .inr (.inl ⟨⟨item, rfl⟩, rfl⟩)
  have hreport : Outcome.ofError e = e.report?.elim (.unstopped e) .reported := by
    unfold Outcome.ofError
    split
    · exact absurd ⟨_, rfl⟩ hitem
    · next hsome => rw [hsome, Option.elim_some]
    · next hmissing => rw [hmissing, Option.elim_none]
  cases hmessage : e.report? with
  | none =>
      rw [hmessage] at hreport
      exact .inl ⟨(hnone.mp hmessage).resolve_right hitem, by rw [hreport]; rfl⟩
  | some message =>
      rw [hmessage] at hreport hnone
      refine .inr (.inr ⟨⟨fun hstops => ?_, fun item heq => hitem ⟨item, heq⟩⟩, message, hreport⟩)
      exact nomatch hnone.mpr (.inl hstops)

end Ends

-- Files that are well in place, and some that are not.
def someFiles : Disk :=
  let file (name : String) (content : String) (d : Disk) :=
    d.putFile ["w".toList, name.toList] (Utf8.encode content.toList)
  (((Disk.empty ["w".toList]).putFile ["w".toList, "bytes".toList] [255] |> file "page" "\x7b$a\x7d"
    |> file "digit" "\x7b$a.²\x7d" |> file "ratio" "\x7b$a / 0\x7d" |> file "list" "["))

end CommandLine

end BraceTemplate
