import AimAnalysis.Endpoint.Response
import AimAnalysis.Proofs.Number.Extended
import AimAnalysis.Suspicion.Evidence
import Mathlib.Data.List.Induction
import Mathlib.Tactic.Linarith
import Mathlib.Tactic.NormNum

/-!
# What bodies do to the evidence buffer

The evidence buffer takes in the probability of each body that has one, whatever it reads as: a
probability need not lie between zero and one, and numerals stand for infinities and NaN as well. Over the
extended rational numbers the buffer is a number from zero to the flag level after every body, with one
exception: an infinite excess is weighted to NaN by a multiplier of zero. From there, a low probability
brings the buffer back to zero, and no other probability changes it.

* `Evidence.observe_of_number`, `Evidence.observe_of_nan` — one probability, from a number and from NaN.
* `Evidence.Spoilt` — an infinite probability that no low one followed.

**Main statement** (`evidence_of_bodies`): the buffer is sound, and not above the flag level, after every
body exactly if the multiplier is not zero or no probability is infinite. `exists_unsound` is a single
body that makes the buffer unsound.
-/

namespace AimAnalysis

/-! ### Levels that pass validation -/

namespace ConfigFault

variable {α : Type}

theorem ok_of_bind {x y : Except (ConfigFault α) Unit} (h : (do x; y) = .ok ()) :
    x = .ok () ∧ y = .ok () := by
  cases x with
  | error fault => exact absurd h nofun
  | ok => exact ⟨rfl, h⟩

theorem within_of_checkValue [Scalar α] {field : String} {x lo hi : α}
    (h : checkValue field x lo hi = .ok ()) : Scalar.within lo hi x = true := by
  by_contra hout
  simp [checkValue, hout] at h

theorem of_checkOrder {lower upper : String} {inOrder : Bool}
    (h : (checkOrder lower upper inOrder : Except (ConfigFault α) Unit) = .ok ()) :
    inOrder = true := by
  by_contra hout
  simp [checkOrder, hout] at h

end ConfigFault

theorem ClassifierConfig.validate_evidence {α : Type} [Scalar α] {c : ClassifierConfig α}
    (valid : c.validate = .ok ()) : c.evidence.validate = .ok () :=
  (ConfigFault.ok_of_bind (ConfigFault.ok_of_bind valid).2).1

namespace EvidenceConfig

/-- Numbers as the levels of a configuration. -/
def levels (f r m d s : ℚ) : EvidenceConfig Extended :=
  ⟨.finite f, .finite r, .finite m, .finite d, .finite s⟩

/-- A number that passes a check from zero. -/
theorem exists_of_checkValue {field : String} {x : Extended}
    (h : ConfigFault.checkValue field x 0.0 1e9 = .ok ()) : ∃ q : ℚ, x = .finite q ∧ 0 ≤ q := by
  have hwithin := ConfigFault.within_of_checkValue h
  rw [Extended.zero_eq, Extended.ofScientific_eq] at hwithin
  obtain ⟨q, hx, hlow, -⟩ := Extended.exists_finite_of_within hwithin
  exact ⟨q, hx, hlow⟩

/-- Levels that pass validation are numbers that are not negative, and the reset level does not exceed the
flag level. -/
theorem exists_levels {c : EvidenceConfig Extended} (valid : c.validate = .ok ()) :
    ∃ f r m d s : ℚ, c = levels f r m d s ∧ 0 ≤ r ∧ r ≤ f ∧ 0 ≤ m ∧ 0 ≤ d := by
  obtain ⟨flag, reset, multiplier, decrease, suspicious⟩ := c
  obtain ⟨hflag, valid⟩ := ConfigFault.ok_of_bind valid
  obtain ⟨hreset, valid⟩ := ConfigFault.ok_of_bind valid
  obtain ⟨hmultiplier, valid⟩ := ConfigFault.ok_of_bind valid
  obtain ⟨hdecrease, valid⟩ := ConfigFault.ok_of_bind valid
  obtain ⟨hsuspicious, horder⟩ := ConfigFault.ok_of_bind valid
  obtain ⟨f, rfl, -⟩ := exists_of_checkValue hflag
  obtain ⟨r, rfl, hr⟩ := exists_of_checkValue hreset
  obtain ⟨m, rfl, hm⟩ := exists_of_checkValue hmultiplier
  obtain ⟨d, rfl, hd⟩ := exists_of_checkValue hdecrease
  obtain ⟨s, rfl, -⟩ := exists_of_checkValue hsuspicious
  have hle : r ≤ f := by simpa using ConfigFault.of_checkOrder horder
  exact ⟨f, r, m, d, s, rfl, hr, hle, hm, hd⟩

end EvidenceConfig

/-! ### One probability -/

namespace Evidence

open EvidenceConfig (levels)

variable {f r m d s : ℚ} {e : Evidence Extended} {p : Extended}

theorem highProbability_eq : (highProbability : Extended) = .finite (9 / 10) :=
  congrArg Extended.finite (by norm_num)

theorem lowProbability_eq : (lowProbability : Extended) = .finite (1 / 10) :=
  congrArg Extended.finite (by norm_num)

theorem raise_of_high (c : EvidenceConfig Extended) (value : Extended)
    (high : Scalar.lt highProbability p = true) :
    raise c value p = value + (p - highProbability) * c.multiplier := if_pos high

theorem raise_of_low (c : EvidenceConfig Extended) (value : Extended)
    (low : Scalar.lt p lowProbability = true) :
    raise c value p = Scalar.greater (value - c.decrease) (.finite 0) := by
  have hhigh : Scalar.lt highProbability p = false := by
    rw [lowProbability_eq] at low
    rw [highProbability_eq]
    rcases p with _ | negative | q
    · simp at low
    · simpa using low
    · rw [Extended.lt_finite_finite, decide_eq_true_eq] at low
      rw [Extended.lt_finite_finite, decide_eq_false_iff_not]
      linarith
  rw [raise, hhigh, low, Extended.zero_eq]
  rfl

theorem raise_of_middle (c : EvidenceConfig Extended) (value : Extended)
    (notHigh : Scalar.lt highProbability p = false) (notLow : Scalar.lt p lowProbability = false) :
    raise c value p = value := by
  rw [raise, notHigh, notLow]
  rfl

/-- The level that an observation leaves is the raised one, unless that is past the flag level. -/
theorem value_observe (c : EvidenceConfig Extended) :
    (e.observe c p).1.value
      = if Scalar.lt c.flag (raise c e.value p) then c.resetOnFlag else raise c e.value p := rfl

/-- A probability that is not positively infinite raises a number to a number. -/
theorem exists_raise {v : ℚ} (hm : 0 ≤ m) (hv : 0 ≤ v) (bounded : p ≠ .infinite false) :
    ∃ w, raise (levels f r m d s) (.finite v) p = .finite w ∧ 0 ≤ w := by
  by_cases hhigh : Scalar.lt highProbability p = true
  · rw [raise_of_high _ _ hhigh]
    rw [highProbability_eq] at hhigh ⊢
    rcases p with _ | negative | q
    · simp at hhigh
    · simp_all
    · have hq : 9 / 10 < q := by simpa using hhigh
      have hweighted : 0 ≤ (q - 9 / 10) * m := mul_nonneg (sub_nonneg.mpr hq.le) hm
      exact ⟨v + (q - 9 / 10) * m, by simp [levels], add_nonneg hv hweighted⟩
  · by_cases hlow : Scalar.lt p lowProbability = true
    · refine ⟨max (v - d) 0, ?_, le_max_right _ _⟩
      rw [raise_of_low _ _ hlow, levels, Extended.finite_sub_finite, Extended.greater_finite_finite]
    · exact ⟨v, raise_of_middle _ _ (by simpa using hhigh) (by simpa using hlow), hv⟩

/-- A positively infinite probability raises a number by an infinity with the weight of the multiplier. -/
theorem raise_infinite {v : ℚ} :
    raise (levels f r m d s) (.finite v) (.infinite false)
      = .finite v + .infinite false * .finite m := by
  rw [raise_of_high _ _ rfl, highProbability_eq, Extended.infinite_sub_finite, levels]

/-- **One probability, from a number.** Every probability leads from a number to one between zero and the
flag level, except for an infinite one under a multiplier of zero, which leads to NaN. -/
theorem observe_of_number {v : ℚ} (hr : 0 ≤ r) (hle : r ≤ f) (hm : 0 ≤ m)
    (number : e.value = .finite v) (hv : 0 ≤ v) :
    (m = 0 ∧ p = .infinite false → (e.observe (levels f r m d s) p).1.value = .nan)
      ∧ (¬ (m = 0 ∧ p = .infinite false) →
        ∃ w, (e.observe (levels f r m d s) p).1.value = .finite w ∧ 0 ≤ w ∧ w ≤ f) := by
  constructor
  · rintro ⟨rfl, rfl⟩
    rw [value_observe, number, raise_infinite]
    simp [levels]
  · intro sound
    by_cases hp : p = .infinite false
    · -- the infinite level is past the flag level
      subst hp
      have hpos : 0 < m := lt_of_le_of_ne hm fun h => sound ⟨h.symm, rfl⟩
      refine ⟨r, ?_, hr, hle⟩
      rw [value_observe, number, raise_infinite, Extended.infinite_mul_pos hpos]
      simp [levels]
    · obtain ⟨w, hraise, hw⟩ := exists_raise (f := f) (r := r) (d := d) (s := s) hm hv hp
      rw [value_observe, number, hraise]
      by_cases hflag : f < w
      · exact ⟨r, by simp [levels, hflag], hr, hle⟩
      · exact ⟨w, by simp [levels, hflag], hw, not_lt.mp hflag⟩

/-- **One probability, from NaN.** A low probability leads back to zero, and no other one away. -/
theorem observe_of_nan (hf : 0 ≤ f) (unsound : e.value = .nan) :
    (e.observe (levels f r m d s) p).1.value
      = if Scalar.lt p lowProbability then .finite 0 else .nan := by
  rw [value_observe, unsound]
  by_cases hlow : Scalar.lt p lowProbability = true
  · have hkept : ¬ f < 0 := not_lt.mpr hf
    rw [raise_of_low _ _ hlow, Extended.nan_sub, Extended.greater_nan_finite]
    simp [levels, hlow, hkept]
  · have hraise : raise (levels f r m d s) .nan p = .nan := by
      by_cases hhigh : Scalar.lt highProbability p = true
      · rw [raise_of_high _ _ hhigh, Extended.nan_add]
      · exact raise_of_middle _ _ (by simpa using hhigh) (by simpa using hlow)
    rw [hraise]
    simp [hlow]

/-! ### Probabilities one after the other -/

/-- The evidence after probabilities. -/
def observeAll (c : EvidenceConfig Extended) (e : Evidence Extended) (ps : List Extended) :
    Evidence Extended :=
  ps.foldl (fun e p => (e.observe c p).1) e

theorem observeAll_append (c : EvidenceConfig Extended) (ps : List Extended) :
    e.observeAll c (ps ++ [p]) = ((e.observeAll c ps).observe c p).1 := by
  simp [observeAll]

/-- A positively infinite probability that no low one followed. -/
def Spoilt (ps : List Extended) : Prop :=
  ∃ before after, ps = before ++ .infinite false :: after
    ∧ ∀ p ∈ after, Scalar.lt p lowProbability = false

theorem not_spoilt_nil : ¬ Spoilt [] := by
  rintro ⟨before, after, h, -⟩
  simp at h

/-- The latest probability spoils, or leaves it so. -/
theorem spoilt_append_iff {ps : List Extended} :
    Spoilt (ps ++ [p]) ↔ p = .infinite false ∨ Scalar.lt p lowProbability = false ∧ Spoilt ps := by
  constructor
  · rintro ⟨before, after, h, hafter⟩
    rcases List.eq_nil_or_concat after with rfl | ⟨rest, q, rfl⟩
    · exact Or.inl (by simpa using (List.append_inj' h rfl).2)
    · have hsplit : ps ++ [p] = (before ++ .infinite false :: rest) ++ [q] := by simpa using h
      obtain ⟨hps, hp⟩ := List.append_inj' hsplit rfl
      obtain rfl : p = q := by simpa using hp
      exact Or.inr ⟨hafter p (by simp), before, rest, hps, fun x hx => hafter x (by simp [hx])⟩
  · rintro (rfl | ⟨hlow, before, after, rfl, hafter⟩)
    · exact ⟨ps, [], rfl, nofun⟩
    · refine ⟨before, after ++ [p], by simp, fun x hx => ?_⟩
      rcases List.mem_append.mp hx with hold | hnew
      · exact hafter x hold
      · exact List.mem_singleton.mp hnew ▸ hlow

/-- **Probabilities one after the other.** The buffer is NaN if the multiplier is zero and the
probabilities spoil it, and otherwise a number from zero to the flag level. -/
theorem value_observeAll (hr : 0 ≤ r) (hle : r ≤ f) (hm : 0 ≤ m) (ps : List Extended) :
    (m = 0 ∧ Spoilt ps → (empty.observeAll (levels f r m d s) ps).value = .nan)
      ∧ (¬ (m = 0 ∧ Spoilt ps) →
        ∃ w, (empty.observeAll (levels f r m d s) ps).value = .finite w ∧ 0 ≤ w ∧ w ≤ f) := by
  have hf : 0 ≤ f := hr.trans hle
  induction ps using List.reverseRecOn with
  | nil => exact ⟨fun h => absurd h.2 not_spoilt_nil, fun _ => ⟨0, Extended.zero_eq, le_rfl, hf⟩⟩
  | append_singleton ps p ih =>
      rw [observeAll_append, spoilt_append_iff]
      by_cases hspoilt : m = 0 ∧ Spoilt ps
      · -- a low probability is not infinite, and sets the buffer to zero
        obtain ⟨hzero, hps⟩ := hspoilt
        rw [observe_of_nan hf (ih.1 ⟨hzero, hps⟩)]
        by_cases hlow : Scalar.lt p lowProbability = true
        · have hp : p ≠ .infinite false := by
            rintro rfl
            simp [lowProbability_eq] at hlow
          simp [hlow, hp, hf]
        · simp [hlow, hzero, hps]
      · obtain ⟨v, hnumber, hv, -⟩ := ih.2 hspoilt
        have hnext : (m = 0 ∧ (p = .infinite false ∨ Scalar.lt p lowProbability = false ∧ Spoilt ps))
            ↔ (m = 0 ∧ p = .infinite false) := by tauto
        rw [hnext]
        exact observe_of_number hr hle hm hnumber hv

/-! ### Bodies one after the other -/

/-- The probability in a body, if there is one. -/
def reading? (body : String) : Option Extended :=
  (Response.probability body).toOption.map Extended.ofFloat

/-- The evidence after a body. -/
def takeBody (c : EvidenceConfig Extended) (e : Evidence Extended) (body : String) :
    Evidence Extended :=
  match Response.probability body with
  | .ok p => (e.observe c (.ofFloat p)).1
  | .error _ => e

/-- The evidence after bodies, from an empty buffer. -/
def hear (c : EvidenceConfig Extended) (bodies : List String) : Evidence Extended :=
  bodies.foldl (takeBody c) empty

/-- Bodies without a probability make no difference. -/
theorem hear_eq_observeAll (c : EvidenceConfig Extended) (bodies : List String) :
    hear c bodies = empty.observeAll c (bodies.filterMap reading?) := by
  rw [observeAll, List.foldl_filterMap, hear]
  congr 1
  funext e body
  cases hbody : Response.probability body <;> simp [takeBody, reading?, hbody, Except.toOption]

/-- The buffer passes its check and is not above the flag level. -/
def Contained (c : EvidenceConfig Extended) (e : Evidence Extended) : Prop :=
  e.sound = true ∧ Scalar.within 0.0 c.flag e.value = true

theorem contained_of_number {w : ℚ} (number : e.value = .finite w) (hw : 0 ≤ w) (hwf : w ≤ f) :
    Contained (levels f r m d s) e := by
  simp [Contained, sound, Scalar.within, number, levels, Extended.zero_eq, hw, hwf]

theorem not_sound_of_nan (unsound : e.value = .nan) : e.sound = false := by
  simp [sound, unsound]

/-- The buffer after bodies is contained or NaN, and NaN exactly if a multiplier of zero was spoilt. -/
theorem contained_hear_iff {c : EvidenceConfig Extended} (valid : c.validate = .ok ())
    (bodies : List String) :
    ((hear c bodies).Contained c
        ↔ ¬ (c.multiplier = 0.0 ∧ Spoilt (bodies.filterMap reading?)))
      ∧ (¬ (hear c bodies).Contained c → (hear c bodies).value = .nan) := by
  obtain ⟨f, r, m, d, s, rfl, hr, hle, hm, -⟩ := EvidenceConfig.exists_levels valid
  have hzero : (levels f r m d s).multiplier = 0.0 ↔ m = 0 := by simp [levels, Extended.zero_eq]
  obtain ⟨hnan, hnumber⟩ :=
    value_observeAll (d := d) (s := s) hr hle hm (bodies.filterMap reading?)
  rw [hear_eq_observeAll, hzero]
  by_cases hspoilt : m = 0 ∧ Spoilt (bodies.filterMap reading?)
  · have hvalue := hnan hspoilt
    have hout : ¬ (empty.observeAll (levels f r m d s) (bodies.filterMap reading?)).Contained
        (levels f r m d s) := by
      simp [Contained, not_sound_of_nan hvalue]
    exact ⟨iff_of_false hout (not_not_intro hspoilt), fun _ => hvalue⟩
  · obtain ⟨w, hvalue, hw, hwf⟩ := hnumber hspoilt
    have hin := contained_of_number (r := r) (m := m) (d := d) (s := s) hvalue hw hwf
    exact ⟨iff_of_true hin hspoilt, fun hout => absurd hin hout⟩

end Evidence

/-- **What bodies do to the evidence buffer.** Under a configuration that passes validation, the buffer is
sound and at most the flag level after every one of the bodies exactly if the multiplier is not zero or
none of the probabilities is positively infinite. More closely, it is so after bodies unless the
multiplier is zero and a positively infinite probability was read that no low one followed; then the
buffer is NaN, and unsound. -/
theorem evidence_of_bodies {c : ClassifierConfig Extended} (valid : c.validate = .ok ())
    (bodies : List String) :
    ((∀ heard, heard <+: bodies → (Evidence.hear c.evidence heard).Contained c.evidence)
        ↔ (c.evidence.multiplier = 0.0 → .infinite false ∉ bodies.filterMap Evidence.reading?))
      ∧ ((Evidence.hear c.evidence bodies).Contained c.evidence
        ↔ ¬ (c.evidence.multiplier = 0.0 ∧ Evidence.Spoilt (bodies.filterMap Evidence.reading?)))
      ∧ (¬ (Evidence.hear c.evidence bodies).Contained c.evidence →
        (Evidence.hear c.evidence bodies).value = .nan
          ∧ (Evidence.hear c.evidence bodies).sound = false) := by
  have hlevels := ClassifierConfig.validate_evidence valid
  obtain ⟨hiff, hnan⟩ := Evidence.contained_hear_iff hlevels bodies
  refine ⟨⟨fun hall hzero hinfinite => ?_, fun hsafe heard hheard => ?_⟩, hiff, fun hout => ?_⟩
  · -- the body with the infinite probability spoils the buffer
    obtain ⟨body, hbody, hreading⟩ := List.mem_filterMap.mp hinfinite
    obtain ⟨before, after, rfl⟩ := List.append_of_mem hbody
    have hcontained := hall (before ++ [body]) ⟨after, by simp⟩
    refine (Evidence.contained_hear_iff hlevels (before ++ [body])).1.mp hcontained ⟨hzero, ?_⟩
    rw [List.filterMap_append, List.filterMap_cons, hreading, List.filterMap_nil]
    exact Evidence.spoilt_append_iff.mpr (.inl rfl)
  · refine (Evidence.contained_hear_iff hlevels heard).1.mpr ?_
    rintro ⟨hzero, before, after, hsplit, -⟩
    have hmem : Extended.infinite false ∈ heard.filterMap Evidence.reading? := by simp [hsplit]
    exact hsafe hzero ((hheard.filterMap _).subset hmem)
  · exact ⟨hnan hout, Evidence.not_sound_of_nan (hnan hout)⟩

/-! ### Words in bodies -/

/-- A body whose probability is a word. -/
def wordBody (word : List Char) : String :=
  .ofList (['\x7b', '"', 'p', 'r', 'o', 'b', 'a', 'b', 'i', 'l', 'i', 't', 'y', '"', ':', '"'] ++ word
    ++ ['"', '\x7d'])

/-- Whether a character stands in a string as it is. -/
def isPlain (c : Char) : Bool := c ≠ '"' && c ≠ '\\' && !decide (c.toNat < 0x20)

/-- Plain characters inside a string are collected. -/
theorem scan_of_plain {word : List Char} (plain : word.all isPlain = true) (pieces : List Json.Piece)
    (tokens : List Json.Token) (rest : List Char) :
    Json.Scan.run (.text pieces) tokens (word ++ rest)
      = Json.Scan.run (.text ((word.map .char).reverse ++ pieces)) tokens rest := by
  induction word generalizing pieces with
  | nil => rfl
  | cons c word ih =>
      obtain ⟨hc, hword⟩ := Bool.and_eq_true_iff.mp plain
      obtain ⟨⟨hquote, hbackslash⟩, hprints⟩ : (c ≠ '"' ∧ c ≠ '\\') ∧ ¬ c.toNat < 0x20 := by
        simpa [isPlain] using hc
      have hstep : Json.Scan.step (.text pieces) tokens c = some (.text (.char c :: pieces), tokens) := by
        simp only [Json.Scan.step, if_neg hquote, if_neg hbackslash, if_neg hprints]
      rw [List.cons_append, Json.Scan.run, hstep]
      show Json.Scan.run (.text (.char c :: pieces)) tokens (word ++ rest) = _
      rw [ih hword, List.map_cons, List.reverse_cons, List.append_assoc, List.singleton_append]

theorem joinPieces_map_char (word : List Char) : Json.joinPieces (word.map .char) = some word := by
  induction word with
  | nil => rfl
  | cons c word ih => rw [List.map_cons, Json.joinPieces, ih, Option.map_some]

/-- **A body whose probability is a word** is read as the word is. -/
theorem probability_of_plain {word : List Char} (plain : word.all isPlain = true) :
    Response.probability (wordBody word) = Response.probabilityOfValue (.string (.ofList word)) := by
  have htokens : Json.tokens? (wordBody word).toList
      = some [.openObject, .string ("probability".toList.map .char), .colon, .string (word.map .char),
        .closeObject] := by
    have hword := scan_of_plain plain [] [.colon, .string ("probability".toList.map .char), .openObject]
      ['"', '\x7d']
    rw [List.append_nil] at hword
    rw [wordBody, String.toList_ofList, List.append_assoc]
    unfold Json.tokens?
    show (Json.Scan.run (.text []) [.colon, .string ("probability".toList.map .char), .openObject]
      (word ++ ['"', '\x7d'])).map List.reverse = _
    rw [hword]
    show some [_, _, _, Json.Token.string (word.map .char).reverse.reverse, _] = _
    rw [List.reverse_reverse]
  have htree : Json.Tree.ofText? (wordBody word)
      = some (.object [("probability".toList.map .char, .string (word.map .char))]) := by
    rw [Json.Tree.ofText?, htokens]
    rfl
  have hvalue : Json.Tree.value? Response.depthInRecord (.string (word.map .char))
      = some (.string (.ofList word)) := by
    rw [Json.Tree.value?, Json.stringOfPieces?, joinPieces_map_char]
    rfl
  have hfield : Response.probabilityField? (wordBody word) = some (some (.string (.ofList word))) := by
    rw [Response.probabilityField?, htree]
    show (Json.Tree.value? Response.depthInRecord (.string (word.map .char))).map some = _
    rw [hvalue, Option.map_some]
  rw [Response.probability, hfield]

/-! ### An infinite probability -/

/-- The default sections, but high probabilities have no weight. -/
def ClassifierConfig.unweighted {α : Type} [Scalar α] : ClassifierConfig α :=
  { (ClassifierConfig.standard : ClassifierConfig α) with
    evidence := { (EvidenceConfig.standard : EvidenceConfig α) with multiplier := 0.0 } }

theorem probability_wordBody {word : List Char} (h : word = ['i', 'n', 'f']) :
    Response.probability (wordBody word) = .ok (Double.infinity false) := by
  subst h
  rw [probability_of_plain rfl]
  rfl

theorem ofFloat_infinity : Extended.ofFloat (Double.infinity false) = .infinite false := by
  decide +kernel

/-- The numeral of infinity makes the buffer NaN when high probabilities have no weight. -/
theorem evidence_of_bodies_unweighted :
    (ClassifierConfig.unweighted : ClassifierConfig Extended).validate = .ok ()
      ∧ (Evidence.hear ClassifierConfig.unweighted.evidence [wordBody ['i', 'n', 'f']]).value = .nan := by
  let c : ClassifierConfig Extended := .unweighted
  have valid : c.validate = .ok () := by decide +kernel
  have hreading : [wordBody ['i', 'n', 'f']].filterMap Evidence.reading? = [.infinite false] := by
    simp [Evidence.reading?, probability_wordBody rfl, Except.toOption, ofFloat_infinity]
  have hevidence := evidence_of_bodies valid [wordBody ['i', 'n', 'f']]
  rw [hreading] at hevidence
  obtain ⟨-, hiff, hnan⟩ := hevidence
  have hspoilt : c.evidence.multiplier = 0.0 ∧ Evidence.Spoilt [.infinite false] :=
    ⟨rfl, [], [], rfl, nofun⟩
  exact ⟨valid, (hnan fun hin => hiff.mp hin hspoilt).1⟩

/-- A configuration that passes validation, and one body after which the buffer does not pass its check:
over the extended rational numbers, and in double precision. -/
theorem exists_unsound :
    ∃ body p, Response.probability body = .ok p
      ∧ (∃ c : ClassifierConfig Extended, c.validate = .ok ()
        ∧ (Evidence.hear c.evidence [body]).value = .nan
        ∧ (Evidence.hear c.evidence [body]).sound = false)
      ∧ ∃ c : ClassifierConfig Float, c.validate = .ok ()
        ∧ (Evidence.empty.observe c.evidence p).1.check
          = .error ⟨"EvidenceBuffer", "buffer must be a non-negative number", some "value=NaN"⟩ := by
  have hprobability := probability_wordBody rfl
  have hheard : ∀ c, Evidence.hear c [wordBody ['i', 'n', 'f']]
      = (Evidence.empty.observe c (.infinite false)).1 := by
    simp [Evidence.hear, Evidence.takeBody, hprobability, ofFloat_infinity]
  refine ⟨wordBody ['i', 'n', 'f'], Double.infinity false, hprobability,
    ⟨.unweighted, by decide +kernel, ?_, ?_⟩, .unweighted, rfl, rfl⟩
  · rw [hheard]
    decide +kernel
  · rw [hheard]
    decide +kernel

end AimAnalysis
