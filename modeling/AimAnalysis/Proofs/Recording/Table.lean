import AimAnalysis.Recording.Session
import AimAnalysis.Proofs.Number.Extended
import Mathlib.Algebra.Order.Field.Power
import Mathlib.Algebra.Order.Floor.Semifield
import Mathlib.Data.Sign.Basic
import Mathlib.Tactic.FieldSimp
import Mathlib.Tactic.Linarith

/-!
# Reading a table back

What the table of a recording says to a reader that knows the format alone: lines that end in a line break,
cells with commas between them, and numbers with six places.

* `Recording.number?` — the reader of a cell. It accepts a minus sign or none, digits, a point and six
  digits, and nothing else.
* `Recording.millionths_eq` — a magnitude in millionths is rounded to the nearest integer, and cut at the
  greatest that 64 bits hold. So a cell is exact up to half a millionth as far as `Recording.greatest`, and
  no further (`exists_number?_cell`).
* `Recording.lines_of_csv`, `Recording.cells_of_row` — the table breaks into its lines, and a row into its
  cells, since neither separator stands in a cell.
-/

namespace AimAnalysis.Recording

/-! ### Numbers with six places -/

/-- The magnitude that a text stands for: digits, a point and six digits. -/
def magnitude? (text : List Char) : Option ℚ :=
  let whole := text.takeWhile Char.isDigit
  let places := text.drop (whole.length + 1)
  if whole ≠ [] ∧ text = whole ++ '.' :: places ∧ places.length = 6 ∧ places.all Char.isDigit then
    some ((Nat.ofDigitChars 10 (whole ++ places) 0 : ℚ) / 1000000)
  else none

/-- The number that a text stands for: a magnitude, after a minus sign or none. -/
def number? (text : List Char) : Option ℚ :=
  if text.head? = some '-' then (magnitude? text.tail).map (- ·) else magnitude? text

/-- The greatest magnitude that a cell holds. -/
def greatest : ℚ := (greatestUnits : ℚ) / 1000000

variable {n : Nat}

theorem toList_toString (n : Nat) : (toString n).toList = Nat.toDigits 10 n := by
  rw [Nat.toString_eq_ofList_toDigits, String.toList_ofList]

theorem isDigit_of_mem_toDigits {c : Char} (h : c ∈ Nat.toDigits 10 n) : c.isDigit = true :=
  Nat.isDigit_of_mem_toDigits (by decide) (by decide) h

theorem isDigit_of_mem_padded {width : Nat} {c : Char} (h : c ∈ Timestamp.padded width n) :
    c.isDigit = true := by
  rw [Timestamp.padded, toList_toString] at h
  rcases List.mem_append.mp h with hzero | hdigit
  · rw [List.eq_of_mem_replicate hzero]
    rfl
  · exact isDigit_of_mem_toDigits hdigit

theorem length_padded {width : Nat} (positive : 0 < width) (h : n < 10 ^ width) :
    (Timestamp.padded width n).length = width := by
  have hshort := (Nat.length_toDigits_le_iff (by decide : 1 < 10) positive).mpr h
  rw [Timestamp.padded, toList_toString, List.length_append, List.length_replicate]
  omega

theorem ofDigitChars_padded (width n : Nat) : Nat.ofDigitChars 10 (Timestamp.padded width n) 0 = n := by
  rw [Timestamp.padded, toList_toString, Nat.ofDigitChars_append, Nat.ofDigitChars_replicate_zero,
    Nat.mul_zero, Nat.ofDigitChars_ten_toDigits]

/-- The text of a number of millionths. -/
def unitsText (units : Nat) : List Char :=
  (toString (units / 1000000)).toList ++ ['.'] ++ Timestamp.padded 6 (units % 1000000)

theorem of_mem_unitsText {units : Nat} {c : Char} (h : c ∈ unitsText units) :
    c.isDigit = true ∨ c = '.' := by
  rw [unitsText, toList_toString] at h
  rcases List.mem_append.mp h with hbefore | hplaces
  · rcases List.mem_append.mp hbefore with hwhole | hpoint
    · exact .inl (isDigit_of_mem_toDigits hwhole)
    · exact .inr (List.mem_singleton.mp hpoint)
  · exact .inl (isDigit_of_mem_padded hplaces)

/-- The text of a number of millionths reads as that many. -/
theorem magnitude?_unitsText (units : Nat) : magnitude? (unitsText units) = some ((units : ℚ) / 1000000) := by
  have hwhole : (unitsText units).takeWhile Char.isDigit = Nat.toDigits 10 (units / 1000000) := by
    rw [unitsText, toList_toString, List.append_assoc,
      List.takeWhile_append_of_pos fun c hc => isDigit_of_mem_toDigits hc]
    simp [show Char.isDigit '.' = false from rfl]
  have htext : unitsText units
      = Nat.toDigits 10 (units / 1000000) ++ '.' :: Timestamp.padded 6 (units % 1000000) := by
    rw [unitsText, toList_toString, List.append_assoc, List.singleton_append]
  have hplaces : (unitsText units).drop ((Nat.toDigits 10 (units / 1000000)).length + 1)
      = Timestamp.padded 6 (units % 1000000) := by
    rw [htext, ← List.drop_drop, List.drop_left, List.drop_one, List.tail_cons]
  have hlength : (Timestamp.padded 6 (units % 1000000)).length = 6 :=
    length_padded (by decide) (Nat.mod_lt _ (by decide))
  have hvalue : Nat.ofDigitChars 10
      (Nat.toDigits 10 (units / 1000000) ++ Timestamp.padded 6 (units % 1000000)) 0 = units := by
    rw [Nat.ofDigitChars_append, Nat.ofDigitChars_ten_toDigits, Nat.ofDigitChars_eq_ofDigitChars_zero,
      hlength, ofDigitChars_padded]
    omega
  rw [magnitude?]
  simp only [hwhole, hplaces]
  rw [if_pos ⟨List.ne_nil_of_length_pos Nat.length_toDigits_pos, htext, hlength,
    List.all_eq_true.mpr fun c hc => isDigit_of_mem_padded hc⟩, hvalue]

theorem head?_unitsText (units : Nat) : (unitsText units).head? ≠ some '-' := by
  intro h
  rcases of_mem_unitsText (List.mem_of_mem_head? h) with hdigit | hpoint
  · exact absurd hdigit (by decide)
  · exact absurd hpoint (by decide)

/-- A sign before the text of a number of millionths is read as one. -/
theorem number?_unitsText (negative : Bool) (units : Nat) :
    number? ((if negative then ['-'] else []) ++ unitsText units)
      = some ((if negative then -1 else 1) * ((units : ℚ) / 1000000)) := by
  cases negative
  · simp [number?, head?_unitsText, magnitude?_unitsText]
  · simp [number?, magnitude?_unitsText]

/-! ### Rounding to millionths -/

variable (mantissa : Nat) (exponent : Int)

/-- A magnitude in millionths, as it is. -/
def inMillionths : ℚ := mantissa * 2 ^ exponent * 1000000

theorem inMillionths_nonneg : 0 ≤ inMillionths mantissa exponent := by
  unfold inMillionths
  positivity

/-- The nearest integer, halves upwards, as far as 64 bits hold it. -/
theorem millionths_eq :
    millionths mantissa exponent = min ⌊inMillionths mantissa exponent + 1 / 2⌋₊ greatestUnits := by
  simp only [millionths]
  congr 1
  by_cases hsign : 0 ≤ exponent
  · obtain ⟨k, rfl⟩ := Int.eq_ofNat_of_zero_le hsign
    have hexact : inMillionths mantissa k = (mantissa * 1000000 * 2 ^ k : ℕ) := by
      rw [inMillionths, zpow_natCast]
      push_cast
      ring
    have hfloor : ⌊(1 / 2 : ℚ)⌋₊ = 0 := Nat.floor_eq_zero.mpr (by norm_num)
    rw [if_pos hsign, hexact, add_comm, Nat.floor_add_natCast (by norm_num), hfloor, Nat.zero_add]
    rfl
  · obtain ⟨k, hk⟩ := Int.eq_ofNat_of_zero_le (show 0 ≤ -exponent by omega)
    have hexact : inMillionths mantissa exponent + 1 / 2
        = ((2 * (mantissa * 1000000) + 2 ^ k : ℕ) : ℚ) / ((2 * 2 ^ k : ℕ) : ℚ) := by
      have hpower : (2 : ℚ) ^ k ≠ 0 := by positivity
      rw [inMillionths, show exponent = -(k : ℤ) by omega, zpow_neg, zpow_natCast]
      push_cast
      field_simp
    rw [if_neg hsign, hexact, Nat.floor_div_eq_div, hk]
    rfl

/-- What is written is off by half a millionth at most, exactly where it is within the range. -/
theorem abs_millionths_sub_le_iff :
    |(millionths mantissa exponent : ℚ) - inMillionths mantissa exponent| ≤ 1 / 2
      ↔ inMillionths mantissa exponent ≤ greatestUnits + 1 / 2 := by
  have hnonneg := inMillionths_nonneg mantissa exponent
  rw [millionths_eq]
  generalize inMillionths mantissa exponent = x at hnonneg
  have hbelow : (⌊x + 1 / 2⌋₊ : ℚ) ≤ x + 1 / 2 := Nat.floor_le (by linarith)
  have habove : x + 1 / 2 < ⌊x + 1 / 2⌋₊ + 1 := Nat.lt_floor_add_one _
  rw [abs_le]
  rcases le_or_gt ⌊x + 1 / 2⌋₊ greatestUnits with hwithin | hbeyond
  · have hcast : ((⌊x + 1 / 2⌋₊ : ℕ) : ℚ) ≤ greatestUnits := Nat.cast_le.mpr hwithin
    rw [min_eq_left hwithin]
    constructor
    · rintro -
      linarith
    · rintro -
      constructor <;> linarith
  · have hcast : ((greatestUnits + 1 : ℕ) : ℚ) ≤ (⌊x + 1 / 2⌋₊ : ℕ) := Nat.cast_le.mpr hbeyond
    rw [min_eq_right hbeyond.le]
    push_cast at hcast
    constructor
    · rintro ⟨hlow, -⟩
      linarith
    · intro hlow
      constructor <;> linarith

/-- Above the range the greatest number of millionths is written. -/
theorem millionths_of_greatestUnits_lt (h : (greatestUnits : ℚ) < inMillionths mantissa exponent) :
    millionths mantissa exponent = greatestUnits := by
  rw [millionths_eq]
  refine min_eq_right (Nat.le_floor ?_)
  linarith

/-! ### Cells -/

variable {x : Binary32} {v : ℚ}

theorem cell_of_finite {negative : Bool} {mantissa : Nat} {exponent : Int}
    (h : x.reading = .finite negative mantissa exponent) :
    cell x = (if negative ∧ mantissa ≠ 0 then ['-'] else []) ++ unitsText (millionths mantissa exponent) := by
  simp only [cell, h, unitsText, List.append_assoc]

theorem exists_reading_of_finite (h : Extended.ofReading x.reading = .finite v) :
    ∃ negative mantissa exponent, x.reading = .finite negative mantissa exponent := by
  rcases hx : x.reading with _ | s | ⟨negative, mantissa, exponent⟩
  · rw [hx] at h
    cases h
  · rw [hx] at h
    cases h
  · exact ⟨_, _, _, rfl⟩

theorem cell_of_not_finite (h : ∀ v, Extended.ofReading x.reading ≠ .finite v) :
    cell x = "0.000000".toList := by
  rcases hx : x.reading with _ | s | ⟨negative, mantissa, exponent⟩
  · simp only [cell, hx]
  · simp only [cell, hx]
  · exact absurd (by rw [hx, Extended.ofReading]) (h _)

/-- The number in the cell of a number. -/
theorem number?_cell {negative : Bool} {mantissa : Nat} {exponent : Int}
    (h : x.reading = .finite negative mantissa exponent) :
    number? (cell x)
      = some ((if negative then -1 else 1) * ((millionths mantissa exponent : ℚ) / 1000000)) := by
  rw [cell_of_finite h]
  by_cases hzero : mantissa = 0
  · have hunits : millionths 0 exponent = 0 := by simp [millionths]
    subst hzero
    simpa [hunits] using number?_unitsText false 0
  · simpa [hzero] using number?_unitsText negative (millionths mantissa exponent)

/-- A finite number and the number in its cell have the same sign, and the magnitude in the cell is rounded. -/
theorem exists_signed (h : Extended.ofReading x.reading = .finite v) :
    ∃ (sign : ℚ) (mantissa : Nat) (exponent : Int), |sign| = 1
      ∧ v = sign * (inMillionths mantissa exponent / 1000000)
      ∧ number? (cell x) = some (sign * ((millionths mantissa exponent : ℚ) / 1000000)) := by
  obtain ⟨negative, mantissa, exponent, hx⟩ := exists_reading_of_finite h
  rw [hx, Extended.ofReading, Extended.finite.injEq] at h
  refine ⟨if negative then -1 else 1, mantissa, exponent, ?_, ?_, number?_cell hx⟩
  · split_ifs <;> simp
  · rw [← h, inMillionths]
    ring

/-- A number stands in its cell up to half a millionth exactly if it is within the range. Beyond the range
every cell holds the greatest magnitude. -/
theorem exists_number?_cell (h : Extended.ofReading x.reading = .finite v) :
    ∃ q, number? (cell x) = some q ∧ (|q - v| ≤ 1 / 2000000 ↔ |v| ≤ greatest + 1 / 2000000)
      ∧ (greatest < |v| → q = SignType.sign v * greatest) := by
  obtain ⟨sign, mantissa, exponent, hunit, hv, hread⟩ := exists_signed h
  have habs : |v| = inMillionths mantissa exponent / 1000000 := by
    have hnonneg := inMillionths_nonneg mantissa exponent
    rw [hv, abs_mul, hunit, one_mul, abs_of_nonneg (by positivity)]
  refine ⟨_, hread, ?_, fun hbeyond => ?_⟩
  · have herror : |sign * ((millionths mantissa exponent : ℚ) / 1000000) - v|
        = |(millionths mantissa exponent : ℚ) - inMillionths mantissa exponent| / 1000000 := by
      rw [hv, ← mul_sub, abs_mul, hunit, one_mul, ← sub_div, abs_div, Nat.abs_ofNat]
    calc |sign * ((millionths mantissa exponent : ℚ) / 1000000) - v| ≤ 1 / 2000000
        ↔ |(millionths mantissa exponent : ℚ) - inMillionths mantissa exponent| ≤ 1 / 2 := by
          rw [herror, div_le_iff₀ (by norm_num)]
          norm_num
      _ ↔ inMillionths mantissa exponent ≤ greatestUnits + 1 / 2 := abs_millionths_sub_le_iff _ _
      _ ↔ |v| ≤ greatest + 1 / 2000000 := by
          rw [habs, greatest, div_le_iff₀ (by norm_num), add_mul, div_mul_cancel₀ _ (by norm_num)]
          norm_num
  · have hlarge : (greatestUnits : ℚ) < inMillionths mantissa exponent := by
      rwa [habs, greatest, div_lt_div_iff_of_pos_right (by norm_num)] at hbeyond
    have hpos : 0 < |v| := lt_of_le_of_lt (by unfold greatest; positivity) hbeyond
    -- the sign of a number is what its magnitude is multiplied with
    have hsign : sign = SignType.sign v := by
      refine mul_right_cancel₀ hpos.ne' ?_
      rw [sign_mul_abs, habs, ← hv]
    rw [millionths_of_greatestUnits_lt _ _ hlarge, hsign, greatest]

theorem of_mem_cell {c : Char} (h : c ∈ cell x) : c.isDigit = true ∨ c = '.' ∨ c = '-' := by
  by_cases hfinite : ∃ negative mantissa exponent, x.reading = .finite negative mantissa exponent
  · obtain ⟨negative, mantissa, exponent, hx⟩ := hfinite
    rw [cell_of_finite hx] at h
    rcases List.mem_append.mp h with hsign | htext
    · split_ifs at hsign
      · exact .inr (.inr (List.mem_singleton.mp hsign))
      · exact absurd hsign List.not_mem_nil
    · exact (of_mem_unitsText htext).imp_right .inl
  · have hall : "0.000000".toList.all (fun c => c.isDigit || c == '.') = true := by decide
    rw [cell_of_not_finite fun v hv => hfinite (exists_reading_of_finite hv)] at h
    have hc := List.all_eq_true.mp hall c h
    simp only [Bool.or_eq_true, beq_iff_eq] at hc
    exact hc.imp_right .inl

/-! ### Lines and rows -/

/-- Text that is put together of terminated lines breaks into them. -/
theorem splitOn_flatMap_terminated {lines : List (List Char)} (h : ∀ line ∈ lines, '\n' ∉ line) :
    (lines.flatMap (· ++ ['\n'])).splitOn '\n' = lines ++ [[]] := by
  induction lines with
  | nil => rfl
  | cons line rest ih =>
      obtain ⟨hline, hrest⟩ := List.forall_mem_cons.mp h
      rw [List.flatMap_cons, List.append_assoc, List.singleton_append,
        List.splitOn_append_cons_self_of_not_mem hline, ih hrest, List.cons_append]

/-- Text that is put together of cells with commas before them breaks into the cells. -/
theorem splitOn_append_flatMap_comma {first : List Char} {cells : List (List Char)} (hfirst : ',' ∉ first)
    (hcells : ∀ text ∈ cells, ',' ∉ text) :
    (first ++ cells.flatMap (',' :: ·)).splitOn ',' = first :: cells := by
  induction cells generalizing first with
  | nil => rw [List.flatMap_nil, List.append_nil, List.splitOn_eq_singleton hfirst]
  | cons text rest ih =>
      obtain ⟨htext, hrest⟩ := List.forall_mem_cons.mp hcells
      rw [List.flatMap_cons, List.cons_append, List.splitOn_append_cons_self_of_not_mem hfirst,
        ih htext hrest]

theorem toList_foldl_terminated (lines : List String) (text : String) :
    (lines.foldl (fun text line => text ++ line ++ "\n") text).toList
      = text.toList ++ (lines.map String.toList).flatMap (· ++ ['\n']) := by
  induction lines generalizing text with
  | nil => simp
  | cons line rest ih =>
      rw [List.foldl_cons, ih, List.map_cons, List.flatMap_cons]
      simp

variable {r : Recording}

/-- The first cell of every row: whether the status starts with the word for a cheater. -/
def flagText (r : Recording) : List Char := if "CHEAT".toList <+: r.status.toList then ['1'] else ['0']

theorem flagText_eq (r : Recording) : r.flagText = ['1'] ∨ r.flagText = ['0'] := by
  unfold flagText
  split_ifs
  · exact .inl rfl
  · exact .inr rfl

theorem toList_row (t : Tick) :
    (row r.label.isCheating t).toList = r.flagText ++ (t.fields.map cell).flatMap (',' :: ·) := by
  have hflag : (toString r.label.isCheating).toList = r.flagText := by
    simp only [label, RecordingLabel.ofStatus, flagText, List.isPrefixOf_iff_prefix]
    split_ifs <;> rfl
  rw [row, String.toList_ofList, hflag, List.flatMap_map]

/-- A row breaks into the cell for the status and the cells of the fields, in wire order. -/
theorem cells_of_row (t : Tick) :
    (row r.label.isCheating t).toList.splitOn ',' = r.flagText :: t.fields.map cell := by
  rw [toList_row]
  refine splitOn_append_flatMap_comma ?_ ?_
  · rcases r.flagText_eq with h | h <;> rw [h] <;> decide
  · intro text htext
    obtain ⟨x, -, rfl⟩ := List.mem_map.mp htext
    exact fun hcomma => absurd (of_mem_cell hcomma) (by decide)

theorem lineBreak_notMem_row (t : Tick) : '\n' ∉ (row r.label.isCheating t).toList := by
  rw [toList_row]
  intro h
  rcases List.mem_append.mp h with hflag | hcells
  · rcases r.flagText_eq with hone | hzero
    · exact absurd (hone ▸ hflag) (by decide)
    · exact absurd (hzero ▸ hflag) (by decide)
  · obtain ⟨text, htext, hmem⟩ := List.mem_flatMap.mp hcells
    obtain ⟨x, -, rfl⟩ := List.mem_map.mp htext
    rcases List.mem_cons.mp hmem with hcomma | hcell
    · exact absurd hcomma (by decide)
    · exact absurd (of_mem_cell hcell) (by decide)

/-- The table of a recording with ticks breaks into the header and a row for each tick, in order. -/
theorem lines_of_csv (recorded : r.ticks ≠ []) :
    r.csv.toList.splitOn '\n'
      = header.toList :: r.ticks.map (fun t => (row r.label.isCheating t).toList) ++ [[]] := by
  have hlines : r.lines.map String.toList
      = header.toList :: r.ticks.map (fun t => (row r.label.isCheating t).toList) := by
    rw [lines, if_neg (by simpa using recorded), List.map_cons, List.map_map]
    rfl
  rw [csv, toList_foldl_terminated, hlines, String.toList_empty, List.nil_append]
  refine splitOn_flatMap_terminated (List.forall_mem_cons.mpr ⟨by decide +kernel, fun line hline => ?_⟩)
  obtain ⟨t, -, rfl⟩ := List.mem_map.mp hline
  exact lineBreak_notMem_row t

/-- The table of a recording with ticks consists of terminated lines: the header, and for each tick in order
a row of nine cells, the first for the status and the others for the fields in wire order. What is not
finite is written as zero. A finite field reads back, from a minus sign or none, digits, a point and six
digits, up to half a millionth exactly if its magnitude does not exceed the greatest by more than that; above
the greatest magnitude the cell holds the greatest. -/
theorem table_of_ticks (recorded : r.ticks ≠ []) :
    (∃ rows, r.csv.toList.splitOn '\n' = header.toList :: rows ++ [[]]
      ∧ rows.map (List.splitOn ',') = r.ticks.map fun t => r.flagText :: t.fields.map cell)
    ∧ ∀ x : Binary32,
      ((∀ v, Extended.ofReading x.reading ≠ .finite v) → cell x = "0.000000".toList)
      ∧ ∀ v, Extended.ofReading x.reading = .finite v →
          ∃ q, number? (cell x) = some q ∧ (|q - v| ≤ 1 / 2000000 ↔ |v| ≤ greatest + 1 / 2000000)
            ∧ (greatest < |v| → q = SignType.sign v * greatest) := by
  refine ⟨⟨_, lines_of_csv recorded, ?_⟩, fun x => ⟨?_, fun v hv => ?_⟩⟩
  · rw [List.map_map]
    refine List.map_congr_left fun t _ => ?_
    rw [Function.comp_apply, cells_of_row]
  · exact cell_of_not_finite
  · exact exists_number?_cell hv

/-- A recording of one turn, by `2 ^ 45` degrees. -/
def farTurn : Recording :=
  { player := "Steve", status := "CHEAT", started := ⟨2024, 2, 29, 13, 45, 7⟩
    ticks := [{ deltaYaw := ⟨0x56000000⟩ }] }

theorem reading_farTurn : (⟨0x56000000⟩ : Binary32).reading = .finite false 8388608 22 := by decide +kernel

/-- The recording of the far turn is read back: one row behind the header, the flag in front of the cells. -/
theorem table_of_ticks_farTurn :
    ∃ rows, farTurn.csv.toList.splitOn '\n' = header.toList :: rows ++ [[]]
      ∧ rows.map (List.splitOn ',') = farTurn.ticks.map fun t => ['1'] :: t.fields.map cell :=
  (table_of_ticks (by decide)).1

/-- A turn by `2 ^ 45` degrees is written as half as much. -/
theorem exists_unfaithful_cell :
    ∃ r : Recording, ∃ t ∈ r.ticks, ∃ x ∈ t.fields, ∃ v q, Extended.ofReading x.reading = .finite v
      ∧ number? (cell x) = some q ∧ cell x = "18446744073709.551615".toList ∧ 1 / 2000000 < |q - v| := by
  refine ⟨farTurn, _, List.mem_singleton_self _, _, List.mem_cons_self, _, _,
    congrArg Extended.ofReading reading_farTurn, number?_cell reading_farTurn, by decide +kernel, ?_⟩
  have hunits : millionths 8388608 22 = 18446744073709551615 := by decide +kernel
  rw [hunits]
  norm_num

end AimAnalysis.Recording
