import BraceTemplate.Data.Dump
import BraceTemplate.Proofs.Dotted.Quoted
import BraceTemplate.Proofs.Single.Parts
import BraceTemplate.Proofs.Tree.Lexeme

namespace BraceTemplate

-- Whatever stands behind them, two texts are told apart unless `p` holds; and if they are not, then
-- they end at the same place.
def Text.Delimited (x y : Text) (p : Prop) : Prop :=
  ∀ s t, x ++ s = y ++ t → p ∧ s = t

namespace Text.Delimited

variable {x x' y y' : Text} {p q : Prop}

theorem self (x : Text) : Delimited x x True :=
  fun _ _ h => ⟨trivial, List.append_cancel_left h⟩

-- Nothing is told of texts that differ from the start on.
theorem of_ne {c d : Char} (hne : c ≠ d) : Delimited (c :: x) (d :: y) p :=
  fun _ _ h => absurd (List.head_eq_of_cons_eq h) hne

theorem mono (h : Delimited x y p) (hpq : p → q) : Delimited x y q := by
  intro s t heq
  obtain ⟨hp, hrest⟩ := h s t heq
  exact ⟨hpq hp, hrest⟩

theorem append (h : Delimited x y p) (h' : p → Delimited x' y' q) :
    Delimited (x ++ x') (y ++ y') (p ∧ q) := by
  intro s t heq
  rw [List.append_assoc, List.append_assoc] at heq
  obtain ⟨hp, hrest⟩ := h _ _ heq
  obtain ⟨hq, htail⟩ := h' hp _ _ hrest
  exact ⟨⟨hp, hq⟩, htail⟩

theorem within (before after : Text) (h : Delimited x y p) :
    Delimited (before ++ (x ++ after)) (before ++ (y ++ after)) p :=
  ((self before).append fun _ => h.append fun _ => self after).mono fun hall => hall.2.1

end Text.Delimited

open Text

section Numerals

variable {n m : Nat} {i j : Int} {c : Char}

theorem takeWhile_natText (hc : c.isDigit = false) (s : Text) :
    (natText n ++ c :: s).takeWhile Char.isDigit = natText n := by
  rw [List.takeWhile_append_of_pos fun d hd => isDigit_of_mem_natText hd,
    List.takeWhile_cons_of_neg (by simp [hc]), List.append_nil]

theorem natText_injective (h : natText n = natText m) : n = m := by
  have hread : some n = some m := by
    rw [← readDigits?_natText n, h, readDigits?_natText]
  exact Option.some.inj hread

-- A numeral ends where its digits do.
theorem delimited_natText (hc : c.isDigit = false) :
    Delimited (natText n ++ [c]) (natText m ++ [c]) (n = m) := by
  intro s t h
  rw [List.append_assoc, List.append_assoc, List.singleton_append, List.singleton_append] at h
  have hdigits : natText n = natText m := by
    have htake := congrArg (List.takeWhile Char.isDigit) h
    rwa [takeWhile_natText hc, takeWhile_natText hc] at htake
  rw [hdigits] at h
  exact ⟨natText_injective hdigits, List.tail_eq_of_cons_eq (List.append_cancel_left h)⟩

theorem delimited_intText (hc : c.isDigit = false) :
    Delimited (intText i ++ [c]) (intText j ++ [c]) (i = j) := by
  have hminus : ∀ d : Char, d.isDigit = true → d ≠ '-' := by
    intro d hd heq
    exact absurd (heq ▸ hd) (by decide)
  cases i with
  | ofNat n =>
      cases j with
      | ofNat m => exact (delimited_natText hc).mono fun h => congrArg Int.ofNat h
      | negSucc m =>
          obtain ⟨d, rest, hn, hd⟩ := exists_cons_natText n
          rw [intText, hn]
          exact .of_ne (hminus d hd)
  | negSucc n =>
      cases j with
      | ofNat m =>
          obtain ⟨d, rest, hm, hd⟩ := exists_cons_natText m
          rw [intText, intText, hm]
          exact .of_ne (hminus d hd).symm
      | negSucc m =>
          have hnumeral := delimited_natText (n := n + 1) (m := m + 1) hc
          have hsigned := (Delimited.self ['-']).append fun _ => hnumeral
          exact hsigned.mono fun h => congrArg Int.negSucc (Nat.succ.inj h.2)

theorem exists_cons_intText (i : Int) : ∃ d rest, intText i = d :: rest ∧ isQuote d = false := by
  cases i with
  | ofNat n =>
      obtain ⟨d, rest, hn, hdigit⟩ := exists_cons_natText n
      refine ⟨d, rest, hn, Bool.eq_false_iff.mpr fun hquote => ?_⟩
      rcases isQuote_iff.mp hquote with rfl | rfl <;> exact absurd hdigit (by decide)
  | negSucc n => exact ⟨'-', natText (n + 1), rfl, by decide⟩

end Numerals

theorem Quoted.delimited_text (a b : Text) : Delimited (text a) (text b) (a = b) := by
  intro s t h
  have hnext := congrArg (Host.Token.next false) h
  rw [Host.Token.next_quoted, Host.Token.next_quoted] at hnext
  simpa using hnext

namespace Datum

section Dump

variable {indent : Int} {n m : Nat} {p q : Prop}

theorem delimited_dumpBool (b c : Bool) :
    Delimited (dumpScalar (.bool b)) (dumpScalar (.bool c)) (b = c) := by
  have hword : Delimited (Scalar.bool b).quoted (Scalar.bool c).quoted (b = c) := by
    cases b with
    | false =>
        cases c with
        | false => exact (Delimited.self _).mono fun _ => rfl
        | true => exact .of_ne (by decide)
    | true =>
        cases c with
        | false => exact .of_ne (by decide)
        | true => exact (Delimited.self _).mono fun _ => rfl
  have hspelled : ∀ b : Bool, dumpScalar (.bool b) =
      "bool(".toList ++ ((Scalar.bool b).quoted ++ [')']) := fun _ => List.append_assoc _ _ _
  rw [hspelled, hspelled]
  exact hword.within _ _

theorem delimited_dumpInt (i j : Int) :
    Delimited (dumpScalar (.int i)) (dumpScalar (.int j)) (i = j) := by
  have hspelled : ∀ i, dumpScalar (.int i) = "int(".toList ++ (intText i ++ [')']) :=
    fun _ => List.append_assoc _ _ _
  rw [hspelled, hspelled]
  exact ((Delimited.self _).append fun _ => delimited_intText (by decide)).mono fun h => h.2

-- The text itself is not looked at: its length is told before it.
theorem delimited_dumpText (a b : Text) :
    Delimited (dumpScalar.dumpText a) (dumpScalar.dumpText b) (a = b) := by
  have hspelled : ∀ a : Text, dumpScalar.dumpText a =
      "str(".toList ++ (natText a.length ++ [')'] ++ " \"".toList) ++ (a ++ ['"']) := by
    intro a
    change "str(".toList ++ natText a.length ++ ") \"".toList ++ a ++ ['"'] = _
    simp
  have hcount : Delimited ("str(".toList ++ (natText a.length ++ [')'] ++ " \"".toList))
      ("str(".toList ++ (natText b.length ++ [')'] ++ " \"".toList)) (a.length = b.length) :=
    (delimited_natText (by decide)).within _ _
  have htext : a.length = b.length → Delimited (a ++ ['"']) (b ++ ['"']) (a = b) := by
    intro hlength s t h
    rw [List.append_assoc, List.append_assoc] at h
    obtain ⟨heq, hrest⟩ := List.append_inj h hlength
    exact ⟨heq, List.append_cancel_left hrest⟩
  rw [hspelled, hspelled]
  exact (hcount.append htext).mono fun h => h.2

-- A block says how many lines it has before the first of them.
theorem delimited_dumpBlock {kind : Text} {lines lines' : List Text}
    (hlines : n = m → Delimited (lines.flatMap ('\n' :: ·)) (lines'.flatMap ('\n' :: ·)) p) :
    Delimited (dumpBlock kind n indent lines) (dumpBlock kind m indent lines') p := by
  have hspelled : ∀ n (lines : List Text), dumpBlock kind n indent lines =
      (kind ++ ['(']) ++ (natText n ++ [')'] ++ " \x7b".toList) ++
        ([] ++ (lines.flatMap ('\n' :: ·) ++ ('\n' :: padding indent ++ ['\x7d']))) := by
    simp [dumpBlock, join_cons]
  have hcount : Delimited ((kind ++ ['(']) ++ (natText n ++ [')'] ++ " \x7b".toList))
      ((kind ++ ['(']) ++ (natText m ++ [')'] ++ " \x7b".toList)) (n = m) :=
    (delimited_natText (by decide)).within _ _
  rw [hspelled, hspelled]
  exact (hcount.append fun hn => (hlines hn).within _ _).mono fun h => h.2

theorem delimited_dumpLine (indent : Int) {key key' value value' : Text}
    (hkey : Delimited (key ++ [']']) (key' ++ [']']) p) (hvalue : Delimited value value' q) :
    Delimited ('\n' :: dumpLine indent key value) ('\n' :: dumpLine indent key' value') (p ∧ q) := by
  have hspelled : ∀ key value, '\n' :: dumpLine indent key value =
      ('\n' :: padding indent ++ "  [".toList) ++ (key ++ [']'] ++ " => ".toList) ++ value := by
    simp [dumpLine]
  rw [hspelled, hspelled]
  exact (hkey.within _ _).append fun _ => hvalue

end Dump

end Datum

-- What an entry of a mapping goes by.
inductive EntryKey where
  | text (s : Text)
  | number (i : Int)

namespace EntryKey

def datum : EntryKey → Datum
  | .text s => .str s
  | .number i => .int i

theorem quoted_text (s : Text) : (text s).datum.quoted = Quoted.text s := rfl

theorem quoted_number (i : Int) : (number i).datum.quoted = intText i := rfl

-- A text starts with a quote, and no number does.
theorem delimited_quoted (a b : EntryKey) :
    Delimited (a.datum.quoted ++ [']']) (b.datum.quoted ++ [']']) (a = b) := by
  have hquote : ∀ (x : Text) (d : Char), isQuote d = false → Quoted.quoteFor x ≠ d := by
    intro x d hd heq
    exact Bool.false_ne_true (hd ▸ heq ▸ Quoted.isQuote_quoteFor x)
  cases a with
  | text x =>
      cases b with
      | text y =>
          have htext := (Quoted.delimited_text x y).append fun _ => Delimited.self [']']
          rw [quoted_text, quoted_text]
          exact htext.mono fun h => congrArg text h.1
      | number j =>
          obtain ⟨d, rest, hj, hd⟩ := exists_cons_intText j
          rw [quoted_text, quoted_number, hj]
          exact .of_ne (hquote x d hd)
  | number i =>
      cases b with
      | text y =>
          obtain ⟨d, rest, hi, hd⟩ := exists_cons_intText i
          rw [quoted_text, quoted_number, hi]
          exact .of_ne (hquote y d hd).symm
      | number j => exact (delimited_intText (by decide)).mono fun h => congrArg number h

end EntryKey

-- A value of lists, tuples and mappings, within one another, from texts, numbers and truth values.
inductive Simple where
  | null
  | bool (b : Bool)
  | int (i : Int)
  | str (s : Text)
  | list (items : List Simple)
  | tuple (items : List Simple)
  | dict (entries : List (EntryKey × Simple))

namespace Simple

open Datum

mutual

def datum : Simple → Datum
  | .null => .null
  | .bool b => .bool b
  | .int i => .int i
  | .str s => .str s
  | .list items => .list (datumItems items)
  | .tuple items => .tuple (datumItems items)
  | .dict entries => .dict (datumEntries entries)

def datumItems : List Simple → List Datum
  | [] => []
  | item :: rest => item.datum :: datumItems rest

def datumEntries : List (EntryKey × Simple) → List (Datum × Datum)
  | [] => []
  | (key, value) :: rest => (key.datum, value.datum) :: datumEntries rest

end

@[simp]
theorem length_datumItems (items : List Simple) : (datumItems items).length = items.length := by
  induction items with
  | nil => rfl
  | cons item rest ih => simp [datumItems, ih]

@[simp]
theorem length_datumEntries (entries : List (EntryKey × Simple)) :
    (datumEntries entries).length = entries.length := by
  induction entries with
  | nil => rfl
  | cons entry rest ih => simp [datumEntries, ih]

-- The letter that the dump of a value starts with.
def initial : Simple → Char
  | .null => 'N'
  | .bool _ => 'b'
  | .int _ => 'i'
  | .str _ => 's'
  | .list _ => 'l'
  | .tuple _ => 't'
  | .dict _ => 'd'

theorem exists_dump_eq_cons (v : Simple) (indent : Int) :
    ∃ rest, v.datum.dump indent = v.initial :: rest := by
  have hblock : ∀ (letter : Char) (kind : Text) (n : Nat) (lines : List Text),
      ∃ rest, dumpBlock (letter :: kind) n indent lines = letter :: rest := by
    intro letter kind n lines
    rw [dumpBlock, List.cons_append, join_cons]
    exact ⟨_, rfl⟩
  cases v with
  | list items => exact hblock _ _ _ _
  | tuple items => exact hblock _ _ _ _
  | dict entries => exact hblock _ _ _ _
  | _ => exact ⟨_, rfl⟩

theorem delimited_of_initial_ne {v w : Simple} {indent : Int} (hne : v.initial ≠ w.initial) :
    Delimited (v.datum.dump indent) (w.datum.dump indent) (v = w) := by
  obtain ⟨rest, hv⟩ := exists_dump_eq_cons v indent
  obtain ⟨rest', hw⟩ := exists_dump_eq_cons w indent
  rw [hv, hw]
  exact .of_ne hne

mutual

-- The induction goes through both values at once. Values of two kinds differ in the first letter.
theorem delimited_dump (v w : Simple) (indent : Int) :
    Delimited (v.datum.dump indent) (w.datum.dump indent) (v = w) := by
  by_cases hinitial : v.initial = w.initial
  · cases v with
    | null =>
        cases w with
        | null => exact (Delimited.self _).mono fun _ => rfl
        | _ => simp [initial] at hinitial
    | bool b =>
        cases w with
        | bool c => exact (delimited_dumpBool b c).mono fun h => congrArg bool h
        | _ => simp [initial] at hinitial
    | int i =>
        cases w with
        | int j => exact (delimited_dumpInt i j).mono fun h => congrArg int h
        | _ => simp [initial] at hinitial
    | str x =>
        cases w with
        | str y => exact (delimited_dumpText x y).mono fun h => congrArg str h
        | _ => simp [initial] at hinitial
    | list items =>
        cases w with
        | list items' =>
            have hitems := delimited_dumpItems items items' indent 0
            simp only [datum, dump, length_datumItems]
            exact (delimited_dumpBlock hitems).mono fun h => congrArg list h
        | _ => simp [initial] at hinitial
    | tuple items =>
        cases w with
        | tuple items' =>
            have hitems := delimited_dumpItems items items' indent 0
            simp only [datum, dump, length_datumItems]
            exact (delimited_dumpBlock hitems).mono fun h => congrArg tuple h
        | _ => simp [initial] at hinitial
    | dict entries =>
        cases w with
        | dict entries' =>
            have hentries := delimited_dumpEntries entries entries' indent
            simp only [datum, dump, length_datumEntries]
            exact (delimited_dumpBlock hentries).mono fun h => congrArg dict h
        | _ => simp [initial] at hinitial
  · exact delimited_of_initial_ne hinitial

theorem delimited_dumpItems (items items' : List Simple) (indent : Int) (index : Nat)
    (hlength : items.length = items'.length) :
    Delimited ((dumpItems indent index (datumItems items)).flatMap ('\n' :: ·))
      ((dumpItems indent index (datumItems items')).flatMap ('\n' :: ·)) (items = items') := by
  cases items with
  | nil =>
      obtain rfl : items' = [] := List.length_eq_zero_iff.mp hlength.symm
      exact (Delimited.self _).mono fun _ => rfl
  | cons item rest =>
      obtain ⟨item', rest', rfl⟩ := List.exists_cons_of_length_eq_add_one hlength.symm
      have hline := delimited_dumpLine indent (Delimited.self (natText index ++ [']']))
        (delimited_dump item item' (indent + 1))
      have hrest := delimited_dumpItems rest rest' indent (index + 1) (Nat.succ.inj hlength)
      refine (hline.append fun _ => hrest).mono fun h => ?_
      rw [h.1.2, h.2]

theorem delimited_dumpEntries (entries entries' : List (EntryKey × Simple)) (indent : Int)
    (hlength : entries.length = entries'.length) :
    Delimited ((dumpEntries indent (datumEntries entries)).flatMap ('\n' :: ·))
      ((dumpEntries indent (datumEntries entries')).flatMap ('\n' :: ·)) (entries = entries') := by
  cases entries with
  | nil =>
      obtain rfl : entries' = [] := List.length_eq_zero_iff.mp hlength.symm
      exact (Delimited.self _).mono fun _ => rfl
  | cons entry rest =>
      obtain ⟨⟨key', value'⟩, rest', rfl⟩ := List.exists_cons_of_length_eq_add_one hlength.symm
      cases entry with
      | mk key value =>
      have hline := delimited_dumpLine indent (EntryKey.delimited_quoted key key')
        (delimited_dump value value' (indent + 1))
      have hrest := delimited_dumpEntries rest rest' indent (Nat.succ.inj hlength)
      refine (hline.append fun _ => hrest).mono fun h => ?_
      rw [h.1.1, h.1.2, h.2]

end

-- Values that are dumped alike are the same, whatever their texts look like.
theorem dump_inj (indent : Int) (v w : Simple) :
    v.datum.dump indent = w.datum.dump indent ↔ v = w := by
  constructor
  · intro h
    have hends : v.datum.dump indent ++ [] = w.datum.dump indent ++ [] := congrArg (· ++ []) h
    exact (delimited_dump v w indent [] [] hends).1
  · intro h
    rw [h]

example : (list [str "a\"\n  [1] => None".toList]).datum.dump 0 =
    "list(1) \x7b\n  [0] => str(16) \"a\"\n  [1] => None\"\n\x7d".toList := by
  decide

end Simple

end BraceTemplate
