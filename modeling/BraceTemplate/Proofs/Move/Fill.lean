import BraceTemplate.Host.Fill
import BraceTemplate.Proofs.Move.Attributes

namespace BraceTemplate.Host

variable {m : Move}

instance : Plain Place := ⟨⟩
instance : Plain Filling := ⟨⟩

instance : Movable Supply := ⟨fun m s => { s with whole := moved m s.whole, waiting := moved m s.waiting }⟩

namespace Run

section Numbers

variable (v : Value)

theorem mirrors_asFloat (i : Int) : Mirrors m (asFloat i) (asFloat i) :=
  (mirrors_pure rfl).ite (mirrors_fail _)

theorem mirrors_floatOf (n : Scalar.Number) : Mirrors m (floatOf n) (floatOf n) := by
  cases n with
  | int i => exact mirrors_asFloat i
  | float x => exact mirrors_pure rfl

theorem mirrors_wholeOf (n : Scalar.Number) : Mirrors m (wholeOf n) (wholeOf n) := by
  cases n with
  | int i => exact mirrors_pure rfl
  | float x =>
      dsimp only [wholeOf]
      cases Float.truncated? x with
      | none => exact mirrors_fail _
      | some i => exact mirrors_pure rfl

theorem mirrors_readOr {α : Type} [Plain α] (found : Option α) : Mirrors m (readOr found) (readOr found) := by
  cases found with
  | none => exact mirrors_fail _
  | some x => exact mirrors_pure rfl

-- What a number leads to, or where there is none.
theorem mirrors_number {α : Type} [Plain α] {f : Scalar.Number → Run α} (h : ∀ n, Mirrors m (f n) (f n))
    (n? : Option Scalar.Number) :
    Mirrors m (match n? with | some n => f n | none => fail .wrongType)
      (match n? with | some n => f n | none => fail .wrongType) := by
  cases n? with
  | none => exact mirrors_fail _
  | some n => exact h n

theorem mirrors_toWhole : Mirrors m (toWhole v) (toWhole (moved m v)) := by
  have hmoved : toWhole (moved m v) = toWhole v := by
    cases v with
    | scalar s => cases s <;> rfl
    | _ => rfl
  rw [hmoved]
  unfold toWhole
  split
  · exact mirrors_refuse _
  · exact mirrors_readOr _
  · exact mirrors_readOr _
  · exact mirrors_readOr _
  · exact mirrors_number mirrors_wholeOf _
  · exact mirrors_fail _

theorem mirrors_toReal : Mirrors m (toReal v) (toReal (moved m v)) := by
  have hmoved : toReal (moved m v) = toReal v := by
    cases v with
    | scalar s => cases s <;> rfl
    | _ => rfl
  rw [hmoved]
  unfold toReal
  split
  · exact mirrors_refuse _
  · exact mirrors_readOr _
  · exact mirrors_readOr _
  · exact mirrors_readOr _
  · exact mirrors_number mirrors_floatOf _
  · exact mirrors_fail _

end Numbers

section Places

variable (filling : Filling) (s : Supply) (v : Value)

@[simp]
theorem moved_supply (keyed : Bool) (waiting : List Value) :
    moved m (⟨v, keyed, waiting⟩ : Supply) = ⟨moved m v, keyed, waiting.map (moved m)⟩ := rfl

theorem mirrors_nextOf : Mirrors m (nextOf s) (nextOf (moved m s)) := by
  rcases s with ⟨whole, keyed, _ | ⟨v, rest⟩⟩
  · exact mirrors_fail _
  · exact mirrors_pure rfl

-- A number that is written down or waits to be used.
theorem mirrors_measure (bound : Nat) (format : Text) :
    Mirrors m (measure filling bound s format) (measure filling bound (moved m s) format) := by
  unfold measure
  split
  · refine (mirrors_nextOf s).bind fun ⟨v, s⟩ => ?_
    dsimp only [moved_pair]
    rw [index?_moved]
    cases index? v with
    | none => cases filling <;> exact mirrors_fail _
    | some i =>
        cases filling with
        | safe => exact mirrors_fail _
        | plain => exact (mirrors_pure rfl).ite (mirrors_fail _)
        | bytes => exact (mirrors_pure rfl).ite (mirrors_fail _)
  · dsimp only
    split
    · exact mirrors_pure rfl
    · exact (mirrors_pure rfl).ite (mirrors_fail _)

theorem mirrors_countBehind (format : Text) :
    Mirrors m (countBehind filling s format) (countBehind filling (moved m s) format) := by
  unfold countBehind
  split
  · exact (mirrors_measure filling s countBound _).bind fun ⟨count, s, rest⟩ => mirrors_pure (by cases count <;> rfl)
  · exact mirrors_pure rfl

-- A place is read in step; only what waits for it differs.
theorem mirrors_placeOf (format : Text) :
    MirrorsBy m (fun a b => b = (a.1, a.2.1, moved m a.2.2.1, a.2.2.2)) (placeOf filling s format)
      (placeOf filling (moved m s) format) := by
  refine (mirrors_measure filling s widthBound _).bind fun ⟨width, s, rest⟩ => ?_
  refine (mirrors_countBehind filling s rest).bind fun ⟨count, s, rest⟩ => ?_
  simp only [moved_pair, moved_option, moved_plain_eq_id, Option.map_id, id]
  cases afterSize rest with
  | nil => exact mirrors_fail _
  | cons kind rest => exact mirrorsBy_pure rfl

theorem mirrors_wholeIn : Mirrors m (wholeIn filling v) (wholeIn filling (moved m v)) := by
  cases filling with
  | safe => exact mirrors_toWhole v
  | plain | bytes =>
      cases v with
      | absent a => exact mirrors_refuse a
      | scalar s =>
          simp only [wholeIn, moved_scalar, Scalar.number?_moved]
          exact mirrors_number mirrors_wholeOf _
      | _ => exact mirrors_fail _

theorem mirrors_realIn : Mirrors m (realIn filling v) (realIn filling (moved m v)) := by
  cases filling with
  | safe => exact mirrors_toReal v
  | plain | bytes =>
      cases v with
      | absent a => exact mirrors_refuse a
      | scalar s =>
          simp only [realIn, moved_scalar, Scalar.number?_moved]
          exact mirrors_number mirrors_floatOf _
      | _ => exact mirrors_fail _

theorem mirrors_charNumbered (bound : Nat) : Mirrors m (charNumbered bound v) (charNumbered bound (moved m v)) := by
  unfold charNumbered
  rw [index?_moved]
  cases index? v with
  | none => exact mirrors_fail _
  | some i => exact (mirrors_pure rfl).ite (mirrors_fail _)

theorem mirrors_charIn : Mirrors m (charIn filling v) (charIn filling (moved m v)) := by
  cases filling with
  | safe => exact mirrors_fail _
  | plain =>
      cases v with
      | scalar s =>
          cases s with
          | str s | safe s =>
              rcases s with _ | ⟨c, _ | ⟨d, rest⟩⟩
              · exact mirrors_charNumbered _ 0x110000
              · exact mirrors_pure rfl
              · exact mirrors_charNumbered _ 0x110000
          | _ => exact mirrors_charNumbered _ 0x110000
      | _ => exact mirrors_charNumbered _ 0x110000
  | bytes =>
      cases v with
      | scalar s =>
          cases s with
          | bytes bs =>
              rcases bs with _ | ⟨b, _ | ⟨c, rest⟩⟩
              · exact mirrors_charNumbered _ 256
              · exact mirrors_pure rfl
              · exact mirrors_charNumbered _ 256
          | _ => exact mirrors_charNumbered _ 256
      | _ => exact mirrors_charNumbered _ 256

theorem mirrors_markupOf : Mirrors m (markupOf v) (markupOf (moved m v)) := by
  have htext : ∀ v : Value, Mirrors m (escape <$> text v) (escape <$> text (moved m v)) :=
    fun v => (mirrors_text v).map fun _ => rfl
  cases v with
  | scalar s =>
      cases s with
      | safe s => exact mirrors_pure rfl
      | _ => exact htext (.scalar _)
  | _ => exact htext _

theorem mirrors_bytesOf : Mirrors m (bytesOf v) (bytesOf (moved m v)) := by
  cases v with
  | scalar s => cases s <;> first | exact mirrors_pure rfl | exact mirrors_fail _
  | _ => exact mirrors_fail _

theorem mirrors_shownIn (kind : Char) : Mirrors m (shownIn filling kind v) (shownIn filling kind (moved m v)) := by
  have hshown : ∀ f : Text → Text, Mirrors m (f <$> shown v) (f <$> shown (moved m v)) :=
    fun f => (mirrors_shown v).map fun _ => rfl
  cases filling with
  | plain => exact (mirrors_text v).ite ((mirrors_shown v).ite (hshown _))
  | safe => exact (mirrors_markupOf v).ite ((hshown _).ite (hshown _))
  | bytes => exact (mirrors_bytesOf v).ite ((hshown _).ite (mirrors_fail _))

theorem mirrors_wordIn (p : Place) (kind : Char) :
    Mirrors m (wordIn filling p kind v) (wordIn filling p kind (moved m v)) := by
  refine (mirrors_shownIn filling v kind).bind fun full => ?_
  cases p.count <;> exact mirrors_pure rfl

theorem mirrors_basedIn (byBase : Bool) :
    Mirrors m (basedIn filling byBase v) (basedIn filling byBase (moved m v)) := by
  unfold basedIn
  rw [index?_moved]
  refine MirrorsBy.ite ?_ (mirrors_wholeIn filling v)
  cases index? v <;> cases filling <;> first | exact mirrors_fail _ | exact mirrors_pure rfl

theorem mirrors_placed (p : Place) (kind : Char) :
    Mirrors m (placed filling p kind v) (placed filling p kind (moved m v)) := by
  refine (mirrors_fail _).ite (MirrorsBy.ite ?_ (MirrorsBy.ite ?_ (MirrorsBy.ite ?_ (MirrorsBy.ite ?_ ?_))))
  · refine (mirrors_basedIn filling v _).bind fun i => ?_
    exact (mirrors_fail _).ite ((mirrors_fail _).ite ((mirrors_fail _).ite (mirrors_pure rfl)))
  · exact (mirrors_realIn filling v).bind fun x => (mirrors_fail _).ite (mirrors_pure rfl)
  · exact (mirrors_charIn filling v).bind fun s => mirrors_pure rfl
  · exact (mirrors_wordIn filling v p kind).bind fun s => mirrors_pure rfl
  · exact mirrors_fail _

end Places

section Filled

variable (filling : Filling) (s : Supply) (v key : Value)

theorem mirrors_underKey? (shape : Datum) :
    Mirrors m (underKey? v shape) (underKey? (moved m v) (shape.moved m)) := by
  cases v with
  | absent a => exact mirrors_refuse a
  | self => exact mirrors_pure rfl
  | view entries =>
      rw [moved_view]
      exact mirrors_inView? entries shape
  | ref a =>
      refine (mirrors_cell? a).bind fun c? => ?_
      rcases c? with _ | _ | t | _ | _ | _ | _ | _
      · exact mirrors_fail _
      · exact mirrors_fail _
      · exact mirrors_pure (t.find?_moved shape)
      · exact mirrors_fail _
      · exact mirrors_fail _
      · exact mirrors_fail _
      · exact mirrors_fail _
      · exact mirrors_fail _
  | _ => exact mirrors_fail _

theorem mirrors_valueUnder : Mirrors m (valueUnder v key) (valueUnder (moved m v) (moved m key)) := by
  refine (mirrors_reify key).bind fun shape => (mirrors_underKey? v shape).bind fun found? => ?_
  cases found? with
  | none =>
      rw [Datum.moved_eq, Datum.quoted_moved]
      exact mirrors_fail _
  | some x => exact mirrors_pure rfl

theorem mirrors_keyedSupply (format : Text) :
    Mirrors m (keyedSupply filling s format) (keyedSupply filling (moved m s) format) := by
  unfold keyedSupply
  split
  · refine (mirrors_fail _).ite ?_
    split
    · exact mirrors_fail _
    · dsimp only
      rcases s with ⟨whole, keyed, waiting⟩
      split
      · exact (mirrors_valueUnder whole (.scalar _)).bind fun v => mirrors_pure rfl
      · exact (mirrors_valueUnder whole (.str _)).bind fun v => mirrors_pure rfl
  · exact mirrors_pure rfl

theorem mirrors_filledFrom (fuel : Nat) (format : Text) :
    Mirrors m (filledFrom filling fuel s format) (filledFrom filling fuel (moved m s) format) := by
  have hwaiting : ∀ s : Supply, ((moved m s).keyed || (moved m s).waiting.isEmpty) = (s.keyed || s.waiting.isEmpty) := by
    rintro ⟨whole, keyed, waiting⟩
    simp
  induction fuel, s, format using filledFrom.induct with
  | case1 s format => exact mirrors_pure rfl
  | case2 fuel s hfull hfuel =>
      rw [filledFrom.eq_2 _ _ _ hfuel, filledFrom.eq_2 _ _ _ hfuel, hwaiting]
      exact (mirrors_pure rfl).ite (mirrors_fail _)
  | case3 fuel s hfull hfuel =>
      rw [filledFrom.eq_2 _ _ _ hfuel, filledFrom.eq_2 _ _ _ hfuel, hwaiting]
      exact (mirrors_pure rfl).ite (mirrors_fail _)
  | case4 fuel s rest ih => exact ih.bind fun tail => mirrors_pure rfl
  | case5 fuel s rest hrest ih =>
      rw [filledFrom.eq_4 _ _ _ _ hrest, filledFrom.eq_4 _ _ _ _ hrest]
      refine (mirrors_keyedSupply filling s rest).bind fun ⟨s, rest⟩ => ?_
      refine (mirrors_placeOf filling s rest).bind fun ⟨p, kind, s, rest⟩ _ hb => ?_
      subst hb
      refine (mirrors_nextOf s).bind fun ⟨v, s⟩ => (mirrors_placed filling v p kind).bind fun part => ?_
      exact (ih rest s).bind fun tail => mirrors_pure rfl
  | case6 fuel s c rest hrest hc ih =>
      rw [filledFrom.eq_5 _ _ _ _ _ hrest hc, filledFrom.eq_5 _ _ _ _ _ hrest hc]
      exact ih.bind fun tail => mirrors_pure rfl

theorem mirrors_isKeyed : Mirrors m (isKeyed filling v) (isKeyed filling (moved m v)) := by
  cases v with
  | scalar s => cases s <;> exact mirrors_pure rfl
  | ref a =>
      refine (mirrors_cell? a).bind fun c? => ?_
      rcases c? with _ | _ | _ | _ | _ | _ | _ | _ <;> exact mirrors_pure rfl
  | _ => exact mirrors_pure rfl

theorem mirrors_supplyOf : Mirrors m (supplyOf filling v) (supplyOf filling (moved m v)) := by
  refine (mirrors_isKeyed filling v).bind fun keyed => ?_
  cases v with
  | tuple items => exact mirrors_pure (by simp)
  | _ => exact mirrors_pure rfl

theorem mirrors_filled (format : Text) :
    Mirrors m (filled filling format v) (filled filling format (moved m v)) :=
  (mirrors_supplyOf filling v).bind fun s => mirrors_filledFrom filling s _ format

theorem mirrors_fill (format : Scalar) : Mirrors m (fill format v) (fill format (moved m v)) := by
  cases format with
  | str s => exact (mirrors_filled .plain v s).bind fun s => mirrors_pure rfl
  | safe s => exact (mirrors_filled .safe v s).bind fun s => mirrors_pure rfl
  | bytes bs => exact (mirrors_filled .bytes v _).bind fun s => mirrors_pure rfl
  | _ => exact mirrors_fail _

end Filled

end Run

end BraceTemplate.Host
