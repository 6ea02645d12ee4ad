import AimAnalysis.Proofs.Suspicion.Evidence

/-!
# Flags and suspicion

Probabilities that are numbers are taken in one after the other, under a configuration that passes validation
and over the rational numbers. Every level of the buffer is a number from zero to the flag level, so only a
rise can pass the flag level or the suspicious level, and only a high probability lets the buffer rise. What
brings the buffer back to the suspicious level is decay, or the reset of a flag.

* `Evidence.effect_eq` — what a probability does, by the level before it.
* `Evidence.falls_of_above` — the two ways in which the buffer comes down to the suspicious level.
* `Evidence.exists_falls` — over a series of probabilities that ends at most at the suspicious level, there is
  one that brings the buffer down to it.

**Main statement** (`crossings_of_probabilities`): the buffer stays between zero and the flag level, the
player is flagged exactly if the level rises past the flag level, which resets it, neither flag nor suspicion
comes from a probability that is not high, and the buffer comes down between any two suspicions.
-/

namespace AimAnalysis

namespace Evidence

open EvidenceConfig (levels)

/-- The evidence after probabilities that are numbers, from an empty buffer. -/
def after (c : EvidenceConfig Extended) (ps : List ℚ) : Evidence Extended :=
  empty.observeAll c (ps.map .finite)

/-- What the next probability does. -/
def effect (c : EvidenceConfig Extended) (ps : List ℚ) (p : ℚ) : EvidenceUpdate Extended :=
  ((after c ps).observe c (.finite p)).2

/-- The next probability brings the buffer down to the suspicious level: from above it by decay, or by the
reset of a flag after a rise past it. -/
def Falls (c : EvidenceConfig Extended) (ps : List ℚ) (p : ℚ) : Prop :=
  Scalar.le (after c (ps ++ [p])).value c.suspicious = true
    ∧ (p < 1 / 10 ∧ Scalar.lt c.suspicious (after c ps).value = true
      ∨ (effect c ps p).flagged = true ∧ Scalar.lt c.suspicious (effect c ps p).raised = true
        ∧ (after c (ps ++ [p])).value = c.resetOnFlag)

/-- The level that a probability leaves is the new level of its update. -/
theorem value_after_append (c : EvidenceConfig Extended) (ps : List ℚ) (p : ℚ) :
    (after c (ps ++ [p])).value = (effect c ps p).new := by
  unfold after
  rw [List.map_append, List.map_singleton, observeAll_append]
  rfl

/-! ### Levels that are numbers -/

section

variable {f r m d s v w : ℚ} {ps : List ℚ} {p : ℚ}

/-- The level after a probability, before a reset. -/
def raisedLevel (m d v p : ℚ) : ℚ :=
  if 9 / 10 < p then v + (p - 9 / 10) * m else if p < 1 / 10 then max (v - d) 0 else v

theorem raise_finite (f r m d s v p : ℚ) :
    raise (levels f r m d s) (.finite v) (.finite p) = .finite (raisedLevel m d v p) := by
  by_cases hhigh : 9 / 10 < p
  · have h : Scalar.lt highProbability (.finite p : Extended) = true := by
      rw [highProbability_eq]
      exact decide_eq_true hhigh
    rw [raise_of_high _ _ h, raisedLevel, if_pos hhigh, highProbability_eq, Extended.finite_sub_finite]
    rfl
  · have h : Scalar.lt highProbability (.finite p : Extended) = false := by
      rw [highProbability_eq]
      exact decide_eq_false hhigh
    by_cases hlow : p < 1 / 10
    · have h' : Scalar.lt (.finite p : Extended) lowProbability = true := by
        rw [lowProbability_eq]
        exact decide_eq_true hlow
      rw [raise_of_low _ _ h', raisedLevel, if_neg hhigh, if_pos hlow, levels,
        Extended.finite_sub_finite, Extended.greater_finite_finite]
    · have h' : Scalar.lt (.finite p : Extended) lowProbability = false := by
        rw [lowProbability_eq]
        exact decide_eq_false hlow
      rw [raise_of_middle _ _ h h', raisedLevel, if_neg hhigh, if_neg hlow]

/-- Only a high probability raises the level. -/
theorem raisedLevel_le (hd : 0 ≤ d) (hv : 0 ≤ v) (h : ¬ 9 / 10 < p) : raisedLevel m d v p ≤ v := by
  unfold raisedLevel
  rw [if_neg h]
  by_cases hlow : p < 1 / 10
  · rw [if_pos hlow]
    exact max_le (sub_le_self v hd) hv
  · rw [if_neg hlow]

/-- Only a low probability lowers the level. -/
theorem le_raisedLevel (hm : 0 ≤ m) (h : ¬ p < 1 / 10) : v ≤ raisedLevel m d v p := by
  unfold raisedLevel
  by_cases hhigh : 9 / 10 < p
  · rw [if_pos hhigh]
    have hexcess : 0 ≤ (p - 9 / 10) * m := mul_nonneg (sub_nonneg.mpr hhigh.le) hm
    linarith
  · rw [if_neg hhigh, if_neg h]

/-- Numbers do not spoil the buffer. -/
theorem not_spoilt_finite (ps : List ℚ) : ¬ Spoilt (ps.map .finite) := by
  rintro ⟨before, after, hsplit, -⟩
  have hmem : Extended.infinite false ∈ ps.map .finite := by simp [hsplit]
  obtain ⟨q, -, hq⟩ := List.mem_map.mp hmem
  exact absurd hq nofun

/-- **The buffer holds a number** from zero to the flag level. -/
theorem exists_value_after (hr : 0 ≤ r) (hle : r ≤ f) (hm : 0 ≤ m) (ps : List ℚ) :
    ∃ v, (after (levels f r m d s) ps).value = .finite v ∧ 0 ≤ v ∧ v ≤ f := by
  apply (value_observeAll hr hle hm (ps.map .finite)).2
  intro hspoilt
  exact not_spoilt_finite ps hspoilt.2

/-- **What a probability does**, by the level before it and the level to which it leads. -/
theorem effect_eq (number : (after (levels f r m d s) ps).value = .finite v)
    (hw : raisedLevel m d v p = w) :
    effect (levels f r m d s) ps p
      = { old := .finite v, raised := .finite w, new := .finite (if f < w then r else w)
          suspicious := decide (s < w) && decide (v ≤ s), flagged := decide (f < w) } := by
  unfold effect observe
  rw [number, raise_finite, hw]
  by_cases hflag : f < w
  · simp [levels, hflag]
  · simp [levels, hflag]

/-- A level past the flag level is due to a high probability, since the one before was not past it. -/
theorem high_of_flag_lt (hd : 0 ≤ d) (hv : 0 ≤ v) (hvf : v ≤ f) (h : f < raisedLevel m d v p) :
    9 / 10 < p := by
  by_contra hnot
  have hfall : raisedLevel m d v p ≤ v := raisedLevel_le hd hv hnot
  linarith

/-- A rise past the suspicious level is due to a high probability. -/
theorem high_of_rise (hd : 0 ≤ d) (hv : 0 ≤ v) (hold : v ≤ s) (h : s < raisedLevel m d v p) :
    9 / 10 < p := by
  by_contra hnot
  have hfall : raisedLevel m d v p ≤ v := raisedLevel_le hd hv hnot
  linarith

/-! ### Coming down to the suspicious level -/

/-- A level that is not at most the suspicious level is above it. -/
theorem above_of_not_le (hr : 0 ≤ r) (hle : r ≤ f) (hm : 0 ≤ m)
    (h : ¬ Scalar.le (after (levels f r m d s) ps).value (.finite s) = true) :
    Scalar.lt (.finite s) (after (levels f r m d s) ps).value = true := by
  obtain ⟨v, hv, -, -⟩ := exists_value_after (d := d) (s := s) hr hle hm ps
  rw [hv] at h ⊢
  simpa using h

/-- A buffer that was above the suspicious level, and no longer is, decayed or was reset. -/
theorem falls_of_above (hr : 0 ≤ r) (hle : r ≤ f) (hm : 0 ≤ m) (hd : 0 ≤ d)
    (above : Scalar.lt (.finite s) (after (levels f r m d s) ps).value = true)
    (fallen : Scalar.le (after (levels f r m d s) (ps ++ [p])).value (.finite s) = true) :
    Falls (levels f r m d s) ps p := by
  obtain ⟨v, hv, hnonneg, hvf⟩ := exists_value_after (d := d) (s := s) hr hle hm ps
  have heffect := effect_eq (p := p) hv rfl
  have hsv : s < v := by simpa [hv] using above
  refine ⟨fallen, ?_⟩
  rw [value_after_append, heffect] at fallen ⊢
  by_cases hflag : f < raisedLevel m d v p
  · -- the level rose, so it passed the suspicious level as well
    have hhigh : 9 / 10 < p := high_of_flag_lt hd hnonneg hvf hflag
    have hrise : v ≤ raisedLevel m d v p := le_raisedLevel hm (by linarith)
    have hpast : s < raisedLevel m d v p := hsv.trans_le hrise
    exact .inr ⟨by simpa using hflag, by simpa [levels] using hpast, by simp [hflag, levels]⟩
  · have hlower : raisedLevel m d v p ≤ s := by simpa [hflag] using fallen
    have hlow : p < 1 / 10 := by
      by_contra hnot
      have hkept : v ≤ raisedLevel m d v p := le_raisedLevel hm hnot
      linarith
    exact .inl ⟨hlow, above⟩

/-- **Coming down.** Over probabilities that lead from above the suspicious level to at most that level, there
is one that brings the buffer down. -/
theorem exists_falls (hr : 0 ≤ r) (hle : r ≤ f) (hm : 0 ≤ m) (hd : 0 ≤ d) (between : List ℚ)
    (above : Scalar.lt (.finite s) (after (levels f r m d s) ps).value = true)
    (fallen : Scalar.le (after (levels f r m d s) (ps ++ between)).value (.finite s) = true) :
    ∃ front x back, between = front ++ x :: back ∧ Falls (levels f r m d s) (ps ++ front) x := by
  induction between generalizing ps with
  | nil =>
      obtain ⟨v, hv, -, -⟩ := exists_value_after (d := d) (s := s) hr hle hm ps
      rw [List.append_nil, hv] at fallen
      rw [hv] at above
      have hsv : s < v := by simpa using above
      have hvs : v ≤ s := by simpa using fallen
      exact absurd hvs hsv.not_ge
  | cons x rest ih =>
      by_cases hnow : Scalar.le (after (levels f r m d s) (ps ++ [x])).value (.finite s) = true
      · refine ⟨[], x, rest, rfl, ?_⟩
        rw [List.append_nil]
        exact falls_of_above hr hle hm hd above hnow
      · -- still above: the rest of the probabilities brings it down
        have hstill : Scalar.lt (.finite s) (after (levels f r m d s) (ps ++ [x])).value = true :=
          above_of_not_le hr hle hm hnow
        have hend : Scalar.le (after (levels f r m d s) (ps ++ [x] ++ rest)).value (.finite s) = true := by
          rw [List.append_assoc]
          exact fallen
        obtain ⟨front, y, back, rfl, hfalls⟩ := ih hstill hend
        refine ⟨x :: front, y, back, rfl, ?_⟩
        rw [← List.singleton_append, ← List.append_assoc]
        exact hfalls

/-- A suspicion that does not leave the buffer above the suspicious level ends in the reset of a flag. -/
theorem falls_of_suspicious (hr : 0 ≤ r) (hle : r ≤ f) (hm : 0 ≤ m)
    (suspicious : (effect (levels f r m d s) ps p).suspicious = true)
    (fallen : Scalar.le (after (levels f r m d s) (ps ++ [p])).value (.finite s) = true) :
    Falls (levels f r m d s) ps p := by
  obtain ⟨v, hv, -, -⟩ := exists_value_after (d := d) (s := s) hr hle hm ps
  have heffect := effect_eq (p := p) hv rfl
  refine ⟨fallen, .inr ?_⟩
  rw [value_after_append] at fallen ⊢
  rw [heffect] at suspicious fallen ⊢
  have hpast : s < raisedLevel m d v p := by
    have hboth : s < raisedLevel m d v p ∧ v ≤ s := by simpa using suspicious
    exact hboth.1
  have hflag : f < raisedLevel m d v p := by
    by_contra hnot
    have hlower : raisedLevel m d v p ≤ s := by simpa [hnot] using fallen
    linarith
  exact ⟨by simpa using hflag, by simpa [levels] using hpast, by simp [hflag, levels]⟩

end

end Evidence

/-- **Flags and suspicion.** Under a configuration that passes validation, and for probabilities that are
numbers, the buffer is at least zero and at most the flag level after all of them. A probability flags the
player exactly if the level rises past the flag level; then the buffer takes exactly the reset level, and the
raised level otherwise. Only a probability above `0.90` flags the player or makes the player suspicious.
Between any two probabilities that make the player suspicious, the first one included, there is one that
brings the buffer down to the suspicious level, by decay or by the reset of a flag. -/
theorem crossings_of_probabilities {c : EvidenceConfig Extended} (valid : c.validate = .ok ()) :
    (∀ ps, (Evidence.after c ps).Contained c)
      ∧ (∀ ps p, ((Evidence.effect c ps p).flagged = true
            ↔ Scalar.lt c.flag (Evidence.effect c ps p).raised = true)
          ∧ (Evidence.after c (ps ++ [p])).value
            = (if (Evidence.effect c ps p).flagged then c.resetOnFlag else (Evidence.effect c ps p).raised)
          ∧ ((Evidence.effect c ps p).flagged = true ∨ (Evidence.effect c ps p).suspicious = true →
            9 / 10 < p))
      ∧ ∀ before p between q, (Evidence.effect c before p).suspicious = true →
        (Evidence.effect c (before ++ p :: between) q).suspicious = true →
        ∃ front x back, p :: between = front ++ x :: back ∧ Evidence.Falls c (before ++ front) x := by
  obtain ⟨f, r, m, d, s, rfl, hr, hle, hm, hd⟩ := EvidenceConfig.exists_levels valid
  have hvalue := Evidence.exists_value_after (d := d) (s := s) hr hle hm
  refine ⟨?_, ?_, ?_⟩
  · intro ps
    obtain ⟨v, hv, hnonneg, hvf⟩ := hvalue ps
    exact Evidence.contained_of_number hv hnonneg hvf
  · intro ps p
    obtain ⟨v, hv, hnonneg, hvf⟩ := hvalue ps
    refine ⟨Iff.rfl, ?_, ?_⟩
    · rw [Evidence.value_after_append]
      rfl
    · intro hraised
      rw [Evidence.effect_eq (p := p) hv rfl] at hraised
      rcases hraised with hflagged | hsuspicious
      · exact Evidence.high_of_flag_lt hd hnonneg hvf (by simpa using hflagged)
      · have hboth : s < Evidence.raisedLevel m d v p ∧ v ≤ s := by simpa using hsuspicious
        exact Evidence.high_of_rise hd hnonneg hboth.2 hboth.1
  · intro before p between q hfirst hsecond
    -- the second suspicion starts at most at the suspicious level
    have hend : Scalar.le (Evidence.after (EvidenceConfig.levels f r m d s) (before ++ p :: between)).value
        (.finite s) = true := (Bool.and_eq_true_iff.mp hsecond).2
    by_cases hnow : Scalar.le (Evidence.after (EvidenceConfig.levels f r m d s) (before ++ [p])).value
        (.finite s) = true
    · refine ⟨[], p, between, rfl, ?_⟩
      rw [List.append_nil]
      exact Evidence.falls_of_suspicious hr hle hm hfirst hnow
    · have habove := Evidence.above_of_not_le hr hle hm hnow
      rw [← List.singleton_append, ← List.append_assoc] at hend
      obtain ⟨front, x, back, rfl, hfalls⟩ := Evidence.exists_falls hr hle hm hd between habove hend
      refine ⟨p :: front, x, back, rfl, ?_⟩
      rw [← List.singleton_append, ← List.append_assoc]
      exact hfalls

/-- Certain probabilities under the default configuration: the third one makes the player suspicious, the
sixth one flags the player, and the seventh one makes the player suspicious again. -/
theorem crossings_of_probabilities_certain :
    (EvidenceConfig.standard : EvidenceConfig Extended).validate = .ok ()
      ∧ (Evidence.effect .standard [1, 1] 1).suspicious = true
      ∧ (Evidence.effect .standard ([1, 1] ++ 1 :: [1, 1, 1]) 1).suspicious = true
      ∧ ∃ front x back, [1, 1, 1, 1] = front ++ x :: back
        ∧ Evidence.Falls .standard ([1, 1] ++ front) x := by
  have valid : (EvidenceConfig.standard : EvidenceConfig Extended).validate = .ok () := by
    decide +kernel
  have hfirst : (Evidence.effect .standard [1, 1] 1).suspicious = true := by decide +kernel
  have hsecond : (Evidence.effect .standard ([1, 1] ++ 1 :: [1, 1, 1]) 1).suspicious = true := by
    decide +kernel
  obtain ⟨-, -, hbetween⟩ := crossings_of_probabilities valid
  exact ⟨valid, hfirst, hsecond, hbetween [1, 1] 1 [1, 1, 1] 1 hfirst hsecond⟩

end AimAnalysis
