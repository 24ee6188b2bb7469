import BraceTemplate.Data.Dump

namespace BraceTemplate

namespace Scalar

def isNan : Scalar → Bool
  | .float x => x.isNaN
  | .nan _ => true
  | _ => false

end Scalar

section Bits

open Float.Model UnpackedFloat

theorem Float.toNat_unpackExponent (x : Float) :
    (@unpackExponent Format.binary64 x.toBits.toBitVec).toNat =
      x.toBits.toNat / Nat.pow 2 52 % 2048 :=
  congrArg (· % 2048) (Nat.shiftRight_eq_div_pow x.toBits.toNat 52)

-- What is not a number has all bits of its exponent set.
theorem Float.unpackExponent_of_isNaN {x : Float} (hx : x.isNaN = true) :
    @unpackExponent Format.binary64 x.toBits.toBitVec = (-1#_) := by
  by_cases hbits : @unpackExponent Format.binary64 x.toBits.toBitVec = (-1#_)
  · exact hbits
  · have hnan : (UnpackedFloat.unpack Format.binary64 x.toBits.toBitVec).isNaN = true := hx
    delta UnpackedFloat.unpack at hnan
    dsimp only at hnan
    rw [if_neg hbits] at hnan
    by_cases hsmall : @unpackExponent Format.binary64 x.toBits.toBitVec = 0#_
    · rw [if_pos hsmall] at hnan
      by_cases hzero : @unpackMantissa Format.binary64 x.toBits.toBitVec = 0#_
      · rw [dif_pos hzero] at hnan
        exact absurd hnan Bool.false_ne_true
      · rw [dif_neg hzero] at hnan
        exact absurd hnan Bool.false_ne_true
    · rw [if_neg hsmall] at hnan
      exact absurd hnan Bool.false_ne_true

end Bits

theorem Binary.ofFloat?_of_isNaN {x : Float} (hx : x.isNaN = true) : Binary.ofFloat? x = none := by
  have hexponent : x.toBits.toNat / Nat.pow 2 52 % 2048 = 2047 :=
    (Float.toNat_unpackExponent x).symm.trans (congrArg BitVec.toNat (Float.unpackExponent_of_isNaN hx))
  simp only [ofFloat?, hexponent, if_true]

theorem floatText_of_isNaN {x : Float} (hx : x.isNaN = true) : floatText x = "nan".toList := by
  simp only [floatText, Binary.ofFloat?_of_isNaN hx, hx, if_true]

namespace Datum

mutual

-- Whether a tree has nothing in it that could not be shown part by part.
def isWhole : Datum → Bool
  | .scalar _ => true
  | .list items => wholeItems items
  | .tuple items => wholeItems items
  | .set _ items => wholeItems items
  | .dict entries => wholeEntries entries
  | .view entries => wholeEntries entries
  | .other .. => false

def wholeItems : List Datum → Bool
  | [] => true
  | item :: rest => item.isWhole && wholeItems rest

def wholeEntries : List (Datum × Datum) → Bool
  | [] => true
  | (key, value) :: rest => key.isWhole && value.isWhole && wholeEntries rest

end

mutual

-- A tree in which each `nan` is an object of its own, marked from a number on, and the number behind
-- the last mark.
def numbered (n : Nat) : Datum → Datum × Nat
  | .scalar c => if c.isNan then (.scalar (.nan n), n + 1) else (.scalar c, n)
  | .list items => let (items, n) := numberedItems n items; (.list items, n)
  | .tuple items => let (items, n) := numberedItems n items; (.tuple items, n)
  | .set frozen items => let (items, n) := numberedItems n items; (.set frozen items, n)
  | .dict entries => let (entries, n) := numberedEntries n entries; (.dict entries, n)
  | .view entries => let (entries, n) := numberedEntries n entries; (.view entries, n)
  | .other kind identity shown => (.other kind identity shown, n)

def numberedItems (n : Nat) : List Datum → List Datum × Nat
  | [] => ([], n)
  | item :: rest =>
    let (item, n) := numbered n item
    let (rest, n) := numberedItems n rest
    (item :: rest, n)

def numberedEntries (n : Nat) : List (Datum × Datum) → List (Datum × Datum) × Nat
  | [] => ([], n)
  | (key, value) :: rest =>
    let (key, n) := numbered n key
    let (value, n) := numbered n value
    let (rest, n) := numberedEntries n rest
    ((key, value) :: rest, n)

end

mutual

-- Whether every number in a tree is one.
def hasNoNan : Datum → Bool
  | .scalar c => !c.isNan
  | .list items => noNanItems items
  | .tuple items => noNanItems items
  | .set _ items => noNanItems items
  | .dict entries => noNanEntries entries
  | .view entries => noNanEntries entries
  | .other .. => true

def noNanItems : List Datum → Bool
  | [] => true
  | item :: rest => item.hasNoNan && noNanItems rest

def noNanEntries : List (Datum × Datum) → Bool
  | [] => true
  | (key, value) :: rest => key.hasNoNan && value.hasNoNan && noNanEntries rest

end

mutual

-- Where every number is one, nothing is marked.
theorem numbered_eq_self (d : Datum) (hd : d.hasNoNan = true) (n : Nat) : d.numbered n = (d, n) := by
  cases d with
  | scalar c =>
      have hc : c.isNan = false := by simpa [hasNoNan] using hd
      simp [numbered, hc]
  | list items => rw [numbered, numberedItems_eq_self items hd n]
  | tuple items => rw [numbered, numberedItems_eq_self items hd n]
  | set frozen items => rw [numbered, numberedItems_eq_self items hd n]
  | dict entries => rw [numbered, numberedEntries_eq_self entries hd n]
  | view entries => rw [numbered, numberedEntries_eq_self entries hd n]
  | other kind identity shown => rfl

theorem numberedItems_eq_self (items : List Datum) (hd : noNanItems items = true) (n : Nat) :
    numberedItems n items = (items, n) := by
  cases items with
  | nil => rfl
  | cons item rest =>
      simp only [noNanItems, Bool.and_eq_true] at hd
      simp only [numberedItems, numbered_eq_self item hd.1, numberedItems_eq_self rest hd.2]

theorem numberedEntries_eq_self (entries : List (Datum × Datum)) (hd : noNanEntries entries = true)
    (n : Nat) : numberedEntries n entries = (entries, n) := by
  cases entries with
  | nil => rfl
  | cons entry rest =>
      obtain ⟨key, value⟩ := entry
      simp only [noNanEntries, Bool.and_eq_true] at hd
      simp only [numberedEntries, numbered_eq_self key hd.1.1, numbered_eq_self value hd.1.2,
        numberedEntries_eq_self rest hd.2]

end

mutual

theorem endless_eq_false (d : Datum) (hd : d.isWhole = true) : d.endless = false := by
  cases d with
  | scalar c => rfl
  | list items => exact endlessItems_eq_false items hd
  | tuple items => exact endlessItems_eq_false items hd
  | set frozen items => exact endlessItems_eq_false items hd
  | dict entries => exact endlessEntries_eq_false entries hd
  | view entries => exact endlessEntries_eq_false entries hd
  | other kind identity shown => exact absurd hd Bool.false_ne_true

theorem endlessItems_eq_false (items : List Datum) (hd : wholeItems items = true) :
    endlessItems items = false := by
  cases items with
  | nil => rfl
  | cons item rest =>
      simp only [wholeItems, Bool.and_eq_true] at hd
      rw [endlessItems, endless_eq_false item hd.1, endlessItems_eq_false rest hd.2, Bool.or_false]

theorem endlessEntries_eq_false (entries : List (Datum × Datum)) (hd : wholeEntries entries = true) :
    endlessEntries entries = false := by
  cases entries with
  | nil => rfl
  | cons entry rest =>
      obtain ⟨key, value⟩ := entry
      simp only [wholeEntries, Bool.and_eq_true] at hd
      rw [endlessEntries, endless_eq_false key hd.1.1, endless_eq_false value hd.1.2,
        endlessEntries_eq_false rest hd.2, Bool.or_false, Bool.or_false]

end

-- Trees that are written alike.
structure Alike (d d' : Datum) : Prop where
  whole : d.isWhole = d'.isWhole
  quoted : d.quoted = d'.quoted
  printed : d.printed = d'.printed
  writable : d.writable = d'.writable
  dump : ∀ indent, d.dump indent = d'.dump indent

structure ItemsAlike (items items' : List Datum) : Prop where
  whole : wholeItems items = wholeItems items'
  length : items.length = items'.length
  quoted : quotedItems items = quotedItems items'
  writable : writableItems items = writableItems items'
  dump : ∀ indent index, dumpItems indent index items = dumpItems indent index items'

structure EntriesAlike (entries entries' : List (Datum × Datum)) : Prop where
  whole : wholeEntries entries = wholeEntries entries'
  length : entries.length = entries'.length
  quoted : quotedEntries entries = quotedEntries entries'
  writable : writableEntries entries = writableEntries entries'
  dump : ∀ indent, dumpEntries indent entries = dumpEntries indent entries'

theorem alike_scalar_of_isNan {c : Scalar} (hc : c.isNan = true) (n : Nat) :
    Alike (.scalar (.nan n)) (.scalar c) := by
  cases c with
  | float x =>
      have hquoted : (Scalar.float x).quoted = "nan".toList := floatText_of_isNaN hc
      have hdump : dumpScalar (.float x) = "float(".toList ++ "nan".toList ++ [')'] :=
        congrArg (fun t => "float(".toList ++ t ++ [')']) (floatText_of_isNaN hc)
      exact ⟨rfl, hquoted.symm, hquoted.symm, rfl, fun _ => hdump.symm⟩
  | nan m => exact ⟨rfl, rfl, rfl, rfl, fun _ => rfl⟩
  | _ => exact absurd hc Bool.false_ne_true

mutual

-- Marks are not written.
theorem alike_numbered (d : Datum) (n : Nat) : Alike (d.numbered n).1 d := by
  cases d with
  | scalar c =>
      rw [numbered]
      split
      · next hc => exact alike_scalar_of_isNan hc n
      · exact ⟨rfl, rfl, rfl, rfl, fun _ => rfl⟩
  | list items =>
      have h := alike_numberedItems items n
      have hquoted := congrArg inBrackets h.quoted
      exact ⟨h.whole, hquoted, hquoted, h.writable, fun indent => by
        simp only [numbered, dump, h.length, h.dump]⟩
  | tuple items =>
      have h := alike_numberedItems items n
      have hquoted := congrArg inParens h.quoted
      exact ⟨h.whole, hquoted, hquoted, h.writable, fun indent => by
        simp only [numbered, dump, h.length, h.dump]⟩
  | set frozen items =>
      have h := alike_numberedItems items n
      have hquoted := congrArg (ofSet frozen) h.quoted
      exact ⟨h.whole, hquoted, hquoted, h.writable, fun indent => by
        simp only [numbered, dump, h.length, h.dump]⟩
  | dict entries =>
      have h := alike_numberedEntries entries n
      have hquoted := congrArg inBraces h.quoted
      exact ⟨h.whole, hquoted, hquoted, h.writable, fun indent => by
        simp only [numbered, dump, h.length, h.dump]⟩
  | view entries =>
      have h := alike_numberedEntries entries n
      have hquoted := congrArg inBraces h.quoted
      exact ⟨h.whole, congrArg (fun s => "mappingproxy(".toList ++ s ++ [')']) hquoted, hquoted,
        h.writable, fun indent => by simp only [numbered, dump, h.length, h.dump]⟩
  | other kind identity shown => exact ⟨rfl, rfl, rfl, rfl, fun _ => rfl⟩

theorem alike_numberedItems (items : List Datum) (n : Nat) :
    ItemsAlike (numberedItems n items).1 items := by
  cases items with
  | nil => exact ⟨rfl, rfl, rfl, rfl, fun _ _ => rfl⟩
  | cons item rest =>
      have hitem := alike_numbered item n
      have hrest := alike_numberedItems rest (item.numbered n).2
      constructor
      · simp only [numberedItems, wholeItems, hitem.whole, hrest.whole]
      · simp only [numberedItems, List.length_cons, hrest.length]
      · simp only [numberedItems, quotedItems, hitem.quoted, hrest.quoted]
      · simp only [numberedItems, writableItems, hitem.writable, hrest.writable]
      · intro indent index
        simp only [numberedItems, dumpItems, hitem.dump, hrest.dump]

theorem alike_numberedEntries (entries : List (Datum × Datum)) (n : Nat) :
    EntriesAlike (numberedEntries n entries).1 entries := by
  cases entries with
  | nil => exact ⟨rfl, rfl, rfl, rfl, fun _ => rfl⟩
  | cons entry rest =>
      obtain ⟨key, value⟩ := entry
      have hkey := alike_numbered key n
      have hvalue := alike_numbered value (key.numbered n).2
      have hrest := alike_numberedEntries rest (value.numbered (key.numbered n).2).2
      constructor
      · simp only [numberedEntries, wholeEntries, hkey.whole, hvalue.whole, hrest.whole]
      · simp only [numberedEntries, List.length_cons, hrest.length]
      · simp only [numberedEntries, quotedEntries, hkey.quoted, hvalue.quoted, hrest.quoted]
      · simp only [numberedEntries, writableEntries, hkey.writable, hvalue.writable, hrest.writable]
      · intro indent
        simp only [numberedEntries, dumpEntries, hkey.quoted, hvalue.dump, hrest.dump]

end

end Datum

end BraceTemplate
