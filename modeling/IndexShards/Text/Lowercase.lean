import IndexShards.Text.Lowercase.Table

/-!
# Lowercasing

Names are compared without regard to letter case by lowercasing both sides.  Lowercasing is the
full mapping of Unicode, the same in every locale.  Two letters need more than a table: the dotted
capital I becomes two characters, and the capital sigma has two lower cases, one of which stands
only at the end of a word.

## What is here

* `lowercase s` — the text in lower case.
* `lowerChar_cases` — a character stays, or it moves with its run of the table.
* `IsLower c` — lowercasing leaves the character alone, whatever stands around it.  Every
  character that lowercasing writes is of this kind (`isLower_of_mem_lowerChars`), which is read
  off the table run by run (`shiftsSettle`).
* `lowercase_lowercase` — lowercasing twice is lowercasing once.
-/

set_option autoImplicit false

namespace IndexShards
namespace Text

/-! ## One character -/

/-- The lower case of a character, for those whose lower case is one character whatever stands
around them. -/
def lowerChar (c : Char) : Char :=
  match caseShifts.find? fun r => r.moves c.toNat with
  | some r => Char.ofNat (r.move c.toNat)
  | none => c

/-- The first character that is not passed over has a case. -/
def meetsCased (cs : List Char) : Bool :=
  match cs.dropWhile (inRanges caseIgnorableRanges) with
  | [] => false
  | c :: _ => inRanges casedRanges c

/-- The lower case of `c` between the characters `before` it, nearest first, and those `after` it.
A sigma ends a word if a letter stands before it and none after it. -/
def lowerBetween (before : List Char) (c : Char) (after : List Char) : List Char :=
  if c = 'Σ' then [if meetsCased before && !meetsCased after then 'ς' else 'σ']
  else if c = 'İ' then ['i', '\u0307']
  else [lowerChar c]

/-! ## A text -/

/-- The lower case of `cs` after the characters `before` it, nearest first. -/
def lowerAfter (before : List Char) : List Char → List Char
  | [] => []
  | c :: cs => lowerBetween before c cs ++ lowerAfter (c :: before) cs

/-- The lower case of a list of characters. -/
def lowerChars (cs : List Char) : List Char := lowerAfter [] cs

/-- The text in lower case. -/
def lowercase (s : String) : String := String.ofList (lowerChars s.toList)

theorem toList_lowercase (s : String) : (lowercase s).toList = lowerChars s.toList := by
  rw [lowercase, String.toList_ofList]

/-! ## Characters in lower case -/

/-- Lowercasing leaves the character as it is, wherever it stands. -/
def IsLower (c : Char) : Prop := c ≠ 'İ' ∧ ∀ r ∈ caseShifts, r.moves c.toNat = false

instance (c : Char) : Decidable (IsLower c) := inferInstanceAs (Decidable (_ ∧ _))

theorem IsLower.ne_sigma {c : Char} (h : IsLower c) : c ≠ 'Σ' := by
  rintro rfl
  exact absurd h (by decide +kernel)

theorem lowerChar_of_isLower {c : Char} (h : IsLower c) : lowerChar c = c := by
  have hn : caseShifts.find? (fun r => r.moves c.toNat) = none := by
    simpa [List.find?_eq_none] using h.2
  rw [lowerChar, hn]

theorem lowerBetween_of_isLower {before after : List Char} {c : Char} (h : IsLower c) :
    lowerBetween before c after = [c] := by
  rw [lowerBetween, if_neg h.ne_sigma, if_neg h.1, lowerChar_of_isLower h]

theorem lowerAfter_of_isLower {before cs : List Char} (h : ∀ c ∈ cs, IsLower c) :
    lowerAfter before cs = cs := by
  induction cs generalizing before with
  | nil => rfl
  | cons c cs ih =>
    rw [lowerAfter, lowerBetween_of_isLower (h c (by simp)), ih fun d hd => h d (by simp [hd])]
    rfl

/-! ## What lowercasing writes

No image of a run lies in a run.  For most pairs of runs the intervals do not even meet, so only
few images have to be looked at one by one. -/

/-- No image of the run `r` is a letter of the run `q`. -/
def CaseShift.avoids (r q : CaseShift) : Bool :=
  Nat.blt (r.image + (r.last - r.first)) q.first || Nat.blt q.last r.image ||
    (List.range (r.last - r.first + 1)).all fun k => k % r.step != 0 || !q.moves (r.image + k)

/-- No image of a run is a letter of a run, nor the dotted capital I, and every image is a
character. -/
def shiftsSettle : Bool :=
  caseShifts.all fun r =>
    (Nat.blt (r.image + (r.last - r.first)) 0x130 || Nat.blt 0x130 r.image) &&
      (Nat.blt (r.image + (r.last - r.first)) 0xD800 || Nat.blt 0xDFFF r.image) &&
      Nat.blt (r.image + (r.last - r.first)) 0x110000 && caseShifts.all fun q => r.avoids q

theorem shiftsSettle_eq_true : shiftsSettle = true := by decide +kernel

/-- The image of a letter lies between the images of the first and the last letter of its run. -/
theorem CaseShift.move_mem {r : CaseShift} {n : Nat} (h : r.moves n = true) :
    r.image ≤ r.move n ∧ r.move n ≤ r.image + (r.last - r.first) := by
  simp only [CaseShift.moves, Bool.and_eq_true, decide_eq_true_eq] at h
  rw [CaseShift.move]
  omega

/-- A character is in no run and keeps its code point, or it is in a run and moves with it. -/
theorem lowerChar_cases (c : Char) :
    (lowerChar c = c ∧ ∀ r ∈ caseShifts, r.moves c.toNat = false) ∨
      ∃ r ∈ caseShifts, r.moves c.toNat = true ∧ (lowerChar c).toNat = r.move c.toNat := by
  rw [lowerChar]
  split
  · next r hr =>
    have hmem := List.mem_of_find?_eq_some hr
    have hmoves := List.find?_some hr
    refine Or.inr ⟨r, hmem, hmoves, ?_⟩
    obtain ⟨hge, hle⟩ := CaseShift.move_mem hmoves
    have hall := List.all_eq_true.1 shiftsSettle_eq_true r hmem
    simp only [Bool.and_eq_true, Bool.or_eq_true, Nat.blt_eq] at hall
    obtain ⟨⟨⟨-, hsur⟩, hmax⟩, -⟩ := hall
    have hvalid : (r.move c.toNat).isValidChar := by
      rcases hsur with h | h
      · exact Or.inl (by omega)
      · exact Or.inr ⟨by omega, by omega⟩
    rw [Char.ofNat, dif_pos hvalid]
    rfl
  · next hn => exact Or.inl ⟨rfl, by simpa [List.find?_eq_none] using hn⟩

theorem isLower_lowerChar {c : Char} (hi : c ≠ 'İ') : IsLower (lowerChar c) := by
  rcases lowerChar_cases c with ⟨hc, hstays⟩ | ⟨r, hmem, hmoves, htoNat⟩
  · rw [hc]
    exact ⟨hi, hstays⟩
  · obtain ⟨hge, hle⟩ := CaseShift.move_mem hmoves
    have hall := List.all_eq_true.1 shiftsSettle_eq_true r hmem
    simp only [Bool.and_eq_true, Bool.or_eq_true, Nat.blt_eq] at hall
    obtain ⟨⟨⟨hdot, -⟩, -⟩, hav⟩ := hall
    refine ⟨fun h => ?_, fun q hq => ?_⟩
    · rw [h] at htoNat
      have : ('İ' : Char).toNat = 0x130 := rfl
      omega
    · rw [htoNat]
      have hpair := List.all_eq_true.1 hav q hq
      simp only [CaseShift.avoids, Bool.or_eq_true, Nat.blt_eq] at hpair
      rcases hpair with (h | h) | h
      · simp [CaseShift.moves]; omega
      · simp [CaseShift.moves]; omega
      · simp only [CaseShift.moves, Bool.and_eq_true, decide_eq_true_eq, beq_iff_eq] at hmoves
        have hk := List.all_eq_true.1 h (c.toNat - r.first) (by rw [List.mem_range]; omega)
        simpa [hmoves.2, CaseShift.move] using hk

theorem isLower_of_mem_lowerBetween {before after : List Char} {c d : Char}
    (h : d ∈ lowerBetween before c after) : IsLower d := by
  rw [lowerBetween] at h
  split at h
  · have hsigma : IsLower 'ς' ∧ IsLower 'σ' := by decide +kernel
    rw [List.mem_singleton] at h
    split at h <;> subst h
    · exact hsigma.1
    · exact hsigma.2
  · split at h
    · have hdot : IsLower 'i' ∧ IsLower '\u0307' := by decide +kernel
      rcases List.mem_cons.1 h with rfl | h
      · exact hdot.1
      · rw [List.mem_singleton.1 h]; exact hdot.2
    · next hi => rw [List.mem_singleton.1 h]; exact isLower_lowerChar hi

theorem isLower_of_mem_lowerAfter {before cs : List Char} {d : Char}
    (h : d ∈ lowerAfter before cs) : IsLower d := by
  induction cs generalizing before with
  | nil => simp [lowerAfter] at h
  | cons c cs ih =>
    rcases List.mem_append.1 h with h | h
    · exact isLower_of_mem_lowerBetween h
    · exact ih h

/-- Every character that lowercasing writes is in lower case. -/
theorem isLower_of_mem_lowerChars {cs : List Char} {d : Char} (h : d ∈ lowerChars cs) :
    IsLower d :=
  isLower_of_mem_lowerAfter h

theorem lowerChars_lowerChars (cs : List Char) : lowerChars (lowerChars cs) = lowerChars cs :=
  lowerAfter_of_isLower fun _ h => isLower_of_mem_lowerChars h

/-- **Lowercasing twice is lowercasing once.** -/
theorem lowercase_lowercase (s : String) : lowercase (lowercase s) = lowercase s := by
  rw [lowercase, toList_lowercase, lowerChars_lowerChars, lowercase]

end Text
end IndexShards
