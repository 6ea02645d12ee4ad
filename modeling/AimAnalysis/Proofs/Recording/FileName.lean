import AimAnalysis.Proofs.Recording.Table
import Mathlib.Data.List.TakeWhile

/-!
# Names of saved recordings

Which characters reach the name of a file, and which recordings are saved under it.

* `Recording.mem_fileName_iff` — of the characters that mean something to a file system, exactly those of the
  player's name stand in the name of the file: every one that the status holds is replaced
  (`nameChar_notMem_hostile`), cutting the status adds none, and the time of the start holds digits and signs
  (`of_mem_text`).
* `Recording.save_eq_ok_iff` — a recording with ticks is saved, and then as a file of the directory itself,
  exactly if the player's name holds no slash and the file system can hold the name.
-/

namespace AimAnalysis.Recording

/-! ### Characters of a name -/

/-- The characters that are replaced in a status: they mean something to a file system. -/
def hostile : List Char := "/\\?%*:|\"<>'".toList

theorem nameChar_notMem_hostile (c : Char) : nameChar c ∉ hostile := by
  unfold nameChar
  split_ifs with hblank hcontains
  · decide
  · decide
  · exact fun h => hcontains (List.contains_iff_mem.mpr h)

theorem isPrefix_beforeWord (word text : List Char) : beforeWord word text <+: text := by
  induction text with
  | nil => exact List.nil_prefix
  | cons c rest ih =>
      unfold beforeWord
      split_ifs
      · exact List.nil_prefix
      · exact (List.prefix_cons_inj c).mpr ih

theorem of_mem_yearText {year : Int} {c : Char} (h : c ∈ Timestamp.yearText year) :
    c.isDigit = true ∨ c = '-' ∨ c = '+' := by
  unfold Timestamp.yearText at h
  split_ifs at h
  · exact .inl (isDigit_of_mem_padded h)
  · rcases List.mem_cons.mp h with hsign | hdigits
    · exact .inr (.inl hsign)
    · exact .inl (isDigit_of_mem_padded hdigits)
  · rcases List.mem_cons.mp h with hsign | hdigits
    · exact .inr (.inr hsign)
    · exact .inl (isDigit_of_mem_padded hdigits)

/-- A time is written in digits and signs. -/
theorem of_mem_text {t : Timestamp} {c : Char} (h : c ∈ t.text) : c.isDigit = true ∨ c = '-' ∨ c = '+' := by
  simp only [Timestamp.text, List.mem_append, List.mem_singleton] at h
  rcases h with ((((((hyear | hmonth) | hday) | hsign) | hhour) | hminute) | hsecond)
  · exact of_mem_yearText hyear
  · exact .inl (isDigit_of_mem_padded hmonth)
  · exact .inl (isDigit_of_mem_padded hday)
  · exact .inr (.inl hsign)
  · exact .inl (isDigit_of_mem_padded hhour)
  · exact .inl (isDigit_of_mem_padded hminute)
  · exact .inl (isDigit_of_mem_padded hsecond)

variable {r : Recording} {c : Char}

/-- The part of the name for the status. -/
def statusPart (r : Recording) : List Char := beforeWord "_GLOBAL_".toList (r.status.toList.map nameChar)

theorem toList_fileName (r : Recording) :
    r.fileName.toList
      = r.statusPart ++ ['_'] ++ r.player.toList ++ ['_'] ++ r.started.text ++ ".csv".toList :=
  String.toList_ofList

theorem notMem_hostile_of_mem_statusPart (h : c ∈ r.statusPart) : c ∉ hostile := by
  obtain ⟨before, -, rfl⟩ := List.mem_map.mp ((isPrefix_beforeWord _ _).subset h)
  exact nameChar_notMem_hostile before

theorem notMem_hostile_of_mem_text {t : Timestamp} (h : c ∈ t.text) : c ∉ hostile := by
  intro hc
  have hall : hostile.all (fun d => !(d.isDigit || d == '-' || d == '+')) = true := by decide
  have hnone := List.all_eq_true.mp hall c hc
  simp only [Bool.not_eq_true', Bool.or_eq_false_iff, beq_eq_false_iff_ne] at hnone
  rcases of_mem_text h with hdigit | hminus | hplus
  · exact absurd hdigit (by simp [hnone])
  · exact hnone.1.2 hminus
  · exact hnone.2 hplus

/-- Of the characters that are replaced in the status, the name holds those of the player's name. -/
theorem mem_fileName_iff (hc : c ∈ hostile) : c ∈ r.fileName.toList ↔ c ∈ r.player.toList := by
  have hall : hostile.all (fun d => !("_.csv".toList.contains d)) = true := by decide
  have hfixed : c ∉ ['_'] ∧ c ∉ ".csv".toList := by
    have hnone := List.all_eq_true.mp hall c hc
    simpa using hnone
  have hstatus : c ∉ r.statusPart := fun h => notMem_hostile_of_mem_statusPart h hc
  have htext : c ∉ r.started.text := fun h => notMem_hostile_of_mem_text h hc
  simp only [toList_fileName, List.mem_append, hfixed, hstatus, htext, false_or, or_false]

/-! ### Saving -/

/-- A name without a slash is too long if it does not fit into one part. -/
theorem isTooLong_of_slash_notMem {name : String} (h : '/' ∉ name.toList) :
    isTooLong name = decide (greatestNameLength < name.utf8ByteSize) := by
  have hfirst : firstPart name = name := by
    rw [firstPart, List.takeWhile_eq_self_iff.mpr, String.ofList_toList]
    intro c hc
    exact decide_eq_true fun hslash => h (hslash ▸ hc)
  have hpath : greatestNameLength ≤ greatestPathLength := by decide
  rw [isTooLong, hfirst, Bool.eq_iff_iff, Bool.or_eq_true, decide_eq_true_iff, decide_eq_true_iff]
  omega

/-- A recording with ticks is saved exactly if the player's name holds no slash and the file system can hold
the name. Then the table is written to the file of that name in the directory. -/
theorem save_eq_ok_iff {name text : String} :
    r.save .creatable = .ok (some (name, text))
      ↔ r.ticks ≠ [] ∧ '/' ∉ r.player.toList ∧ Char.ofNat 0 ∉ r.fileName.toList
        ∧ r.fileName.utf8ByteSize ≤ greatestNameLength ∧ name = r.fileName ∧ text = r.csv := by
  have hslash : '/' ∈ r.fileName.toList ↔ '/' ∈ r.player.toList := mem_fileName_iff (by decide)
  rw [save, ← hslash]
  simp only [List.isEmpty_iff, List.contains_iff_mem]
  by_cases hticks : r.ticks = []
  · simp [hticks]
  by_cases hinvalid : Char.ofNat 0 ∈ r.fileName.toList
  · simp [hticks, hinvalid]
  by_cases hinside : '/' ∈ r.fileName.toList
  · cases isTooLong r.fileName <;> simp [hticks, hinvalid, hinside]
  by_cases hlong : greatestNameLength < r.fileName.utf8ByteSize
  · simp [hticks, hinvalid, hinside, isTooLong_of_slash_notMem, hlong, Nat.not_le.mpr hlong]
  · simp [hticks, hinvalid, hinside, isTooLong_of_slash_notMem, hlong, Nat.not_lt.mp hlong, eq_comm]

/-- Only for a recording without ticks there is nothing to save. -/
theorem save_ne_ok_none (h : r.ticks ≠ []) (directory : Directory) : r.save directory ≠ .ok none := by
  unfold save
  rw [if_neg (by simpa using h)]
  cases directory
  · split_ifs <;> exact nofun
  · exact nofun

/-- Of the characters that mean something to a file system, the name of the file holds exactly those of the
player's name. A recording with ticks is saved exactly if the player's name holds no slash and the file
system can hold the name, and then the table is the only file, in the directory itself. -/
theorem fileName_of_recording (r : Recording) :
    (∀ c ∈ hostile, c ∈ r.fileName.toList ↔ c ∈ r.player.toList)
    ∧ (∀ name text, r.save .creatable = .ok (some (name, text))
        ↔ r.ticks ≠ [] ∧ '/' ∉ r.player.toList ∧ Char.ofNat 0 ∉ r.fileName.toList
          ∧ r.fileName.utf8ByteSize ≤ greatestNameLength ∧ name = r.fileName ∧ text = r.csv)
    ∧ (r.ticks ≠ [] → '/' ∈ r.player.toList → ∃ fault, r.save .creatable = .error fault) := by
  refine ⟨fun c hc => mem_fileName_iff hc, fun name text => save_eq_ok_iff, fun hticks hslash => ?_⟩
  rcases hsaved : r.save .creatable with fault | _ | ⟨name, text⟩
  · exact ⟨fault, rfl⟩
  · exact absurd hsaved (save_ne_ok_none hticks _)
  · exact absurd hslash (save_eq_ok_iff.mp hsaved).2.1

/-- A recording of a player whose name is a path. -/
def wanderer : Recording :=
  { player := "../Steve", status := "CHEAT a/b", started := ⟨2024, 2, 29, 13, 45, 7⟩, ticks := [{}] }

/-- The recording of a player with a plain name is saved under a plain name; that of a player whose name is a path
is not saved. -/
theorem fileName_of_recording_farTurn :
    (':' ∈ farTurn.fileName.toList ↔ ':' ∈ "Steve".toList)
    ∧ farTurn.save .creatable = .ok (some (farTurn.fileName, farTurn.csv))
    ∧ ∃ fault, wanderer.save .creatable = .error fault :=
  ⟨(fileName_of_recording farTurn).1 ':' (by decide),
    ((fileName_of_recording farTurn).2.1 _ _).mpr
      ⟨by decide, by decide, by decide +kernel, by decide +kernel, rfl, rfl⟩,
    (fileName_of_recording wanderer).2.2 (by decide) (by decide)⟩

/-- Where the player's name is a path, so is the name of the file, and nothing is saved. -/
theorem exists_hostile_fileName :
    ∃ r : Recording, r.ticks ≠ [] ∧ r.fileName = "CHEAT#a-b_../Steve_20240229-134507.csv"
      ∧ (∃ c ∈ hostile, c ∈ r.fileName.toList) ∧ r.save .creatable = .error .missingDirectory :=
  ⟨wanderer, by decide, by decide +kernel, ⟨'/', by decide, by decide +kernel⟩, by decide +kernel⟩

end AimAnalysis.Recording
