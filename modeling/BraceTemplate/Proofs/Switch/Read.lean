import BraceTemplate.Proofs.Switch.Parse

namespace BraceTemplate

open Host Lexeme

namespace Host.Token

theorem clean_entering {x : Text} (hx : isVariable x = true) : Clean true (entering x) where
  sound := sound_entering hx
  short := rfl
  spaced := rfl
  closed := rfl
  fits := .inl rfl

theorem clean_asked {label : Label} (hl : label.isValid = true) (hshort : label.isShort = true) :
    Clean true (asked label) where
  sound := sound_asked hl
  short := by
    cases label with
    | number n =>
        have hn : (natText n).length ≤ maxNumeralLength := of_decide_eq_true hshort
        simpa [asked, Label.operand?, compared, word, isShort] using hn
    | _ => rfl
  spaced := by cases label <;> rfl
  closed := by cases label <;> rfl
  fits := .inl rfl

theorem clean_taken : Clean true taken where
  sound := sound_taken
  short := rfl
  spaced := rfl
  closed := rfl
  fits := .inl rfl

section Follows

variable {t body : Text} {ks inner : List TokenKind}

theorem Follows.reads (h : Follows t ks) : ReadsAs t ks :=
  h [] (by simp)

theorem follows_end {w : String} (hw : isName w.toList = true) (hstart : w.toList.head? ≠ some 'r')
    (h : ReadsAs t ks) : Follows (statementOf [word w] ++ t) (statementKinds [word w] ++ ks) :=
  follows_statement (clean_word hw) hstart h

-- A branch and a switch around what stands in them.
theorem follows_around {label : Label} (hl : label.isValid = true) (hshort : label.isShort = true)
    (h : ReadsAs (body ++ (statementOf [word "endif"] ++ t)) (inner ++ (statementKinds [word "endif"] ++ ks))) :
    Follows (label.around body ++ t) (label.kindsAround inner ++ ks) := by
  have hmark := follows_statement clean_taken (by decide) h
  have hwhole := follows_statement (clean_asked hl hshort) (by decide) hmark.reads
  simpa only [Label.around, Label.kindsAround, asked, taken, List.append_assoc] using hwhole

theorem follows_aroundSwitch {x : Text} (hx : isVariable x = true)
    (h : ReadsAs (body ++ (statementOf [word "endwith"] ++ t))
      (inner ++ (statementKinds [word "endwith"] ++ ks))) :
    Follows (Switch.around x body ++ t) (Switch.kindsAround x inner ++ ks) := by
  have hwhole := follows_statement (clean_entering hx) (by decide) h
  simpa only [Switch.around, Switch.kindsAround, entering, List.append_assoc] using hwhole

end Follows

end Host.Token

open Host.Token

theorem Cases.follows_host (c : Cases) (hc : c.isValid = true) (hshort : c.isShort = true) {tail : Text}
    {ks : List TokenKind} (htail : Follows tail ks) : Follows (c.host ++ tail) (c.kinds ++ ks) := by
  induction c generalizing tail ks with
  | done => exact htail
  | text label s gap rest ih =>
      simp only [isValid, Bool.and_eq_true] at hc
      obtain ⟨⟨⟨hl, hs⟩, -⟩, hrest⟩ := hc
      simp only [isShort, Bool.and_eq_true] at hshort
      have hend := follows_end (w := "endif") (by decide) (by decide) (ih hrest hshort.2 htail).reads
      have hbranch := follows_around hl hshort.1 (hend s (Tag.not_mem_of_chunk hs (by decide)))
      simpa only [host, kinds, List.append_assoc] using hbranch
  | switch label before x first inner after gap rest ihinner ih =>
      simp only [isValid, Bool.and_eq_true] at hc
      obtain ⟨⟨⟨⟨⟨hl, hx⟩, -⟩, hinner⟩, -⟩, hrest⟩ := hc
      simp only [isShort, Bool.and_eq_true] at hshort
      obtain ⟨⟨hshort, hshortinner⟩, hshortrest⟩ := hshort
      have hend := follows_end (w := "endif") (by decide) (by decide) (ih hrest hshortrest htail).reads
      have hclose := follows_end (w := "endwith") (by decide) (by decide) hend.reads
      have hswitch := follows_aroundSwitch hx (ihinner hinner hshortinner hclose).reads
      have hbranch := follows_around hl hshort hswitch.reads
      simpa only [host, kinds, List.append_assoc] using hbranch

namespace Host.Reader

section Nodes

variable {o : Outlook} {inner mid left : List TokenKind} {stop : List String} {ns rest : List Node}
  {w w' : Nat}

theorem ends_statement {w : String} (hw : w ∈ stop) (hstop : stop ⊆ stopWords) :
    Ends stop (statementKinds [word w] ++ mid) (.name w.toList :: .closeStatement :: mid) :=
  .block stop w _ hw hstop

theorem Ends.takes_nodes (h : Ends stop mid left) : ∀ m, 1 ≤ m → Takes (nodes m stop) o mid [] left := by
  intro m hm
  obtain ⟨m, rfl⟩ : ∃ k, m = k + 1 := ⟨m - 1, by omega⟩
  exact h.takes m

-- A branch is read where what stands in it is read.
theorem takes_nodes_around {label : Label} (hl : label.isValid = true) (hstop : stop ⊆ stopWords)
    (hroom : bracketCost ≤ o.room)
    (hinner : ∀ m, w ≤ m → Takes (nodes m ["elif", "else", "endif"])
      { o with room := o.room - statementCost } (inner ++ (statementKinds [word "endif"] ++ mid)) ns
      (.name "endif".toList :: .closeStatement :: mid))
    (hrest : ∀ m, w' ≤ m → Takes (nodes m stop) o mid rest left) :
    ∀ m, w + w' + 45 ≤ m →
      Takes (nodes m stop) o (label.kindsAround inner ++ mid) (label.node ns :: rest) left := by
  intro m hm
  obtain ⟨m, rfl⟩ : ∃ k, m = k + 45 := ⟨m - 45, by omega⟩
  have hmark : Takes (nodes (m + 41) ["elif", "else", "endif"]) { o with room := o.room - statementCost }
      (statementKinds taken ++ (inner ++ (statementKinds [word "endif"] ++ mid))) (marking :: ns)
      (.name "endif".toList :: .closeStatement :: mid) :=
    takes_nodes_statement (w := "set") (by decide) (by decide) (takes_statement_set (m + 19))
      (hinner (m + 40) (by omega))
  have hbody := takes_body (Nat.le_trans (by decide) hroom) hmark
  have hwhole := takes_nodes_statement (w := "if") hstop (by decide)
    (takes_statement_if hl hroom (n := m + 20) hbody) (hrest (m + 44) (by omega))
  rw [Label.kindsAround, List.append_assoc, statementKinds_asked]
  simpa only [Label.node, List.append_assoc] using hwhole

theorem takes_nodes_aroundSwitch {x : Text} (hx : isVariable x = true) (hstop : stop ⊆ stopWords)
    (hroom : callCost + bracketCost ≤ o.room)
    (hinner : ∀ m, w ≤ m → Takes (nodes m ["endwith"]) { o with room := o.room - statementCost }
      (inner ++ (statementKinds [word "endwith"] ++ mid)) ns
      (.name "endwith".toList :: .closeStatement :: mid))
    (hrest : ∀ m, w' ≤ m → Takes (nodes m stop) o mid rest left) :
    ∀ m, w + w' + 45 ≤ m →
      Takes (nodes m stop) o (Switch.kindsAround x inner ++ mid) (Switch.node x ns :: rest) left := by
  intro m hm
  obtain ⟨m, rfl⟩ : ∃ k, m = k + 45 := ⟨m - 45, by omega⟩
  have hbody := takes_body (Nat.le_trans (by decide) hroom) (hinner (m + 42) (by omega))
  have hwhole := takes_nodes_statement (w := "with") hstop (by decide)
    (takes_statement_with hx hroom (n := m + 10) hbody) (hrest (m + 44) (by omega))
  rw [Switch.kindsAround, List.append_assoc, statementKinds_entering]
  simpa only [List.append_assoc] using hwhole

end Nodes

end Host.Reader

-- Fuel that is enough to read the nodes of branches.
def Cases.weight : Cases → Nat
  | .done => 2
  | .text _ _ _ rest => rest.weight + 50
  | .switch _ _ _ _ inner _ _ rest => inner.weight + rest.weight + 100

open Reader

-- Where branches stand, their nodes are read.
theorem Cases.takes_nodes (c : Cases) (hc : c.isValid = true) {o : Outlook} {stop : List String}
    {ks left : List TokenKind}
    (hroom : callCost + bracketCost + statementCost * (2 * c.depth) ≤ o.room) (hend : Ends stop ks left) :
    ∀ m, c.weight ≤ m → Takes (Reader.nodes m stop) o (c.kinds ++ ks) c.nodes left := by
  induction c generalizing o stop ks left with
  | done =>
      intro m hm
      exact hend.takes_nodes m (by simp only [weight] at hm; omega)
  | text label s gap rest ih =>
      simp only [isValid, Bool.and_eq_true] at hc
      obtain ⟨⟨⟨hl, hs⟩, -⟩, hrest⟩ := hc
      simp only [depth, bracketCost, callCost, statementCost] at hroom ih
      have hbranch := takes_nodes_around hl hend.subset (by simp only [bracketCost]; omega)
        (takes_nodes_data s (ends_statement (w := "endif") (by decide) (by decide)).takes_nodes)
        (ih hrest (o := o) (by omega) hend)
      intro m hm
      have h := hbranch m (by simp only [weight] at hm; omega)
      simpa only [kinds, nodes, List.append_assoc, List.append_nil] using h
  | switch label before x first inner after gap rest ihinner ih =>
      simp only [isValid, Bool.and_eq_true] at hc
      obtain ⟨⟨⟨⟨⟨hl, hx⟩, -⟩, hinner⟩, -⟩, hrest⟩ := hc
      simp only [depth, bracketCost, callCost, statementCost] at hroom ih ihinner
      have hendif : Ends ["elif", "else", "endif"] (statementKinds [word "endif"] ++ (rest.kinds ++ ks)) _ :=
        ends_statement (by decide) (by decide)
      have hswitch := takes_nodes_aroundSwitch (o := { o with room := o.room - statementCost }) hx
        hendif.subset (by simp only [bracketCost, callCost, statementCost]; omega)
        (ihinner hinner (by simp only [statementCost]; omega)
          (ends_statement (w := "endwith") (by decide) (by decide))) hendif.takes_nodes
      have hbranch := takes_nodes_around hl hend.subset (by simp only [bracketCost]; omega) hswitch
        (ih hrest (o := o) (by omega) hend)
      intro m hm
      have h := hbranch m (by simp only [weight] at hm; omega)
      simpa only [kinds, nodes, List.append_assoc] using h

section Kinds

variable (label : Label) (x : Text) (body : List TokenKind)

theorem Label.length_kindsAround :
    (label.kindsAround body).length = (Lexeme.kinds (asked label)).length + body.length + 13 := by
  have htaken : (Lexeme.kinds taken).length = 6 := rfl
  have hend : (Lexeme.kinds [word "endif"]).length = 1 := rfl
  simp only [kindsAround, List.length_append, length_statementKinds, htaken, hend]
  omega

theorem Switch.length_kindsAround : (Switch.kindsAround x body).length = body.length + 20 := by
  have hentering : (Lexeme.kinds (entering x)).length = 15 := rfl
  have hend : (Lexeme.kinds [word "endwith"]).length = 1 := rfl
  simp only [kindsAround, List.length_append, length_statementKinds, hentering, hend]
  omega

theorem Label.faultless_kindsAround {body : List TokenKind} (h : Faultless body) :
    Faultless (label.kindsAround body) :=
  (faultless_statement _).append ((faultless_statement _).append (h.append (faultless_statement _)))

theorem Switch.faultless_kindsAround {body : List TokenKind} (h : Faultless body) :
    Faultless (Switch.kindsAround x body) :=
  (faultless_statement _).append (h.append (faultless_statement _))

end Kinds

namespace Cases

theorem weight_le (c : Cases) : c.weight ≤ 20 * c.kinds.length + 2 := by
  induction c with
  | done => simp [weight]
  | text label s gap rest ih =>
      simp only [weight, kinds, List.length_append, Label.length_kindsAround]
      omega
  | switch label before x first inner after gap rest ihinner ih =>
      simp only [weight, kinds, List.length_append, Label.length_kindsAround, Switch.length_kindsAround]
      omega

theorem faultless_kinds (c : Cases) : Faultless c.kinds := by
  induction c with
  | done => simp [Faultless, kinds]
  | text label s gap rest ih => exact (label.faultless_kindsAround (faultless_data s)).append ih
  | switch label before x first inner after gap rest ihinner ih =>
      exact (label.faultless_kindsAround (Switch.faultless_kindsAround x ihinner)).append ih

end Cases

section Returns

variable {body : Text}

theorem Label.return_not_mem_around {label : Label} (hl : label.isValid = true) (h : '\r' ∉ body) :
    '\r' ∉ label.around body := by
  have hasked : '\r' ∉ statementOf (asked label) := return_not_mem_statementOf (sound_asked hl)
  have htaken : '\r' ∉ statementOf taken := return_not_mem_statementOf sound_taken
  have hend : '\r' ∉ statementOf [word "endif"] := return_not_mem_statementOf sound_endif
  simp [around, hasked, htaken, hend, h]

theorem Switch.return_not_mem_around {x : Text} (hx : isVariable x = true) (h : '\r' ∉ body) :
    '\r' ∉ Switch.around x body := by
  have hentering : '\r' ∉ statementOf (entering x) := return_not_mem_statementOf (sound_entering hx)
  have hend : '\r' ∉ statementOf [word "endwith"] := return_not_mem_statementOf sound_endwith
  simp [around, hentering, hend, h]

theorem Cases.return_not_mem_host (c : Cases) (hc : c.isValid = true) : '\r' ∉ c.host := by
  induction c with
  | done => simp [host]
  | text label s gap rest ih =>
      simp only [isValid, Bool.and_eq_true] at hc
      obtain ⟨⟨⟨hl, hs⟩, -⟩, hrest⟩ := hc
      have hbranch := Label.return_not_mem_around hl (Tag.not_mem_of_chunk hs (c := '\r') (by decide))
      simp [host, hbranch, ih hrest]
  | switch label before x first inner after gap rest ihinner ih =>
      simp only [isValid, Bool.and_eq_true] at hc
      obtain ⟨⟨⟨⟨⟨hl, hx⟩, -⟩, hinner⟩, -⟩, hrest⟩ := hc
      have hbranch := Label.return_not_mem_around hl (Switch.return_not_mem_around hx (ihinner hinner))
      simp [host, hbranch, ih hrest]

end Returns

-- Where there is room for its branches, the host reads the text that a switch is compiled into as its
-- nodes.
theorem Switch.nodesOfText_host {w : Switch} (hw : w.isValid = true) (hshort : w.branches.isShort = true)
    (hroom : callCost + bracketCost + statementCost * (2 * w.branches.depth + 1) ≤ templateRoom) :
    nodesOfText w.host = .ok [Switch.node w.subject w.branches.nodes] := by
  simp only [isValid, Bool.and_eq_true] at hw
  obtain ⟨⟨hx, -⟩, hbranches⟩ := hw
  have hreturn := Switch.return_not_mem_around hx (w.branches.return_not_mem_host hbranches)
  have hfaultless := Switch.faultless_kindsAround w.subject w.branches.faultless_kinds
  have hclose := follows_end (w := "endwith") (by decide) (by decide) follows_nil.reads
  have hscan := (follows_aroundSwitch hx (w.branches.follows_host hbranches hshort hclose).reads).reads.scan
  have hweight := w.branches.weight_le
  have htakes := takes_nodes_aroundSwitch (o := ⟨templateRoom, lineEndsIn w.host⟩) hx
    (List.nil_subset stopWords) (by simp only [callCost, bracketCost, templateRoom] at *; omega)
    (w.branches.takes_nodes hbranches
      (by simp only [callCost, bracketCost, statementCost, templateRoom] at *; omega)
      (ends_statement (w := "endwith") (by decide) (by decide))) Ends.template.takes_nodes
    (20 * w.kinds.length + 20) (by simp only [kinds, Switch.length_kindsAround]; omega)
  simp only [List.append_nil] at hscan htakes
  exact nodesOfText_eq_ok hreturn hscan hfaultless htakes

section Long

variable {n : Nat}

-- What stands in the test of a branch in front of its number.
def Host.Lexeme.comparing : List Lexeme :=
  [word "if", .blank, word "not", .blank, .name switchName, .mark .dot, word "done", .blank, word "and",
    .blank, .name switchName, .mark .dot, word "subject", .blank, .mark .eq]

theorem Host.Token.clean_comparing : Clean true comparing where
  sound := by decide
  short := rfl
  spaced := rfl
  closed := rfl
  fits := .inl rfl

def Host.Lexeme.partsBefore (x : Text) : List TokenKind :=
  statementKinds (entering x) ++ .openStatement :: (kinds comparing ++ [.mark .leftParen])

-- The host reads the test of a branch up to a number that is too long.
theorem Host.Token.follows_long (hn : maxNumeralLength < (natText n).length) (t : Text) :
    Follows (statementOf (asked (.number n)) ++ t)
      (.openStatement :: (kinds comparing ++ [.mark .leftParen, .fault .wrongValue])) := by
  intro before hb
  have hnumber : ReadsInTag true [.rightParen] (natText n ++ ')' :: ' ' :: (statementClose ++ t))
      [.fault .wrongValue] := readsInTag_long hn rfl
  have hparen : ReadsInTag true [] ('(' :: (natText n ++ ')' :: ' ' :: (statementClose ++ t)))
      [.mark .leftParen, .fault .wrongValue] :=
    readsInTag_mark (m := .leftParen) rfl (.inl rfl) (by simp) rfl hnumber
  have hinner := readsInTag_lexemes clean_comparing.sound clean_comparing.short clean_comparing.spaced
    clean_comparing.fits clean_comparing.closed (readsInTag_blank hparen)
  have hno : rawStart? (' ' :: (spellAll comparing ++ ' ' :: '(' ::
      (natText n ++ ')' :: ' ' :: (statementClose ++ t)))) = none := by
    rw [show comparing = word "if" :: comparing.tail from rfl]
    simpa [spellAll, word, spell] using rawStart?_word (w := "if") (by decide) (by decide) _
  have hspell : statementOf (asked (.number n)) ++ t = statementOpen ++ ' ' :: (spellAll comparing ++
      ' ' :: '(' :: (natText n ++ ')' :: ' ' :: (statementClose ++ t))) := by
    simp [statementOf, statement, asked, comparing, Label.operand?, compared, spellAll, spell]
  rw [hspell]
  simpa using readsAs_statement hb hno (readsInTag_blank hinner)

theorem Host.Token.exists_aheads {tokens : List Token} {ks : List TokenKind}
    (h : tokens.map (·.kind) = ks) : ∃ f : Nat → Text, tokens = ks.zipIdx.map fun p => ⟨p.1, f p.2⟩ := by
  subst h
  refine ⟨fun i => (tokens[i]?.map (·.ahead)).getD [], List.ext_getElem? fun i => ?_⟩
  cases hi : tokens[i]? with
  | none => simp [hi]
  | some token => simp [hi]

set_option maxRecDepth 1000 in
theorem Host.Reader.nodes_long {tokens : List Token}
    (h : tokens.map (·.kind) = partsBefore ['a'] ++ [.fault .wrongValue]) (l : Nat) :
    ((nodes (20 * tokens.length + 20) []).run ⟨templateRoom, l⟩).run tokens = .error .wrongValue := by
  obtain ⟨f, rfl⟩ := exists_aheads h
  rfl

-- The host refuses a switch whose first branch is for such a number.
theorem Switch.nodesOfText_long {w : Switch} (hw : w.isValid = true)
    (hn : maxNumeralLength < (natText n).length) {gap s gap' : Text} {rest : Cases}
    (hfirst : w = ⟨['a'], gap, .text (.number n) s gap' rest⟩) : nodesOfText w.host = .error .wrongValue := by
  have hx : isVariable ['a'] = true := by decide
  have hreturn : '\r' ∉ w.host := by
    simp only [isValid, Bool.and_eq_true] at hw
    exact Switch.return_not_mem_around (hfirst ▸ hx) (w.branches.return_not_mem_host hw.2)
  have hhost : w.host = statementOf (entering ['a']) ++ (statementOf (asked (.number n)) ++
      (statementOf taken ++ (s ++ (statementOf [word "endif"] ++ (rest.host ++
        statementOf [word "endwith"]))))) := by
    simp only [hfirst, Switch.host, Switch.around, Cases.host, Label.around, List.append_assoc]
  have hlong := follows_long hn (statementOf taken ++ (s ++ (statementOf [word "endif"] ++ (rest.host ++
    statementOf [word "endwith"]))))
  have hscan : (Token.scan w.host).map (·.kind) = partsBefore ['a'] ++ [.fault .wrongValue] :=
    hhost ▸ (follows_statement (clean_entering hx) (by decide) hlong.reads).reads.scan
  have hsound : expectSound (Token.scan w.host) = pure () := by
    obtain ⟨f, hf⟩ := exists_aheads hscan
    rw [hf]
    rfl
  simp only [nodesOfText, normalNewlines_of_not_mem hreturn, hsound, pure_bind, nodes_long hscan]
  rfl

end Long

end BraceTemplate
