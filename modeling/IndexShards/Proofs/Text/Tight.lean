import IndexShards.Text.Blank
import IndexShards.Text.Lowercase

/-!
# Texts without white space at their ends

The entries of a list are trimmed first and lowercased afterwards.  What was trimmed neither begins
nor ends in white space, but that alone does not say that what was lowercased does neither: one
character may become two, and a sigma is written in view of what stands around it.  What counts is
that lowercasing writes a separator, that is white space or a comma, only where there was one.  The
images of letters are known run by run, so it is enough to look at the table once
(`shiftsSpareSeparators`).

## What is here

* `Tight cs` — no white space at either end.  `trim_eq_self_iff` says that these are the texts that
  trimming leaves alone, and `tight_trim` that trimming makes no others.
* `isSeparator c` — the character is a comma or white space.
* `mem_of_mem_lowerChars` — **lowercasing writes a separator only where there was one**.
* `tight_lowerChars` — **lowercasing keeps a text tight**.
-/

set_option autoImplicit false

namespace IndexShards
namespace Text

/-! ## Trimming -/

/-- The text neither begins nor ends in white space. -/
def Tight (cs : List Char) : Prop :=
  (∀ c, cs.head? = some c → isBlank c = false) ∧ ∀ c, cs.getLast? = some c → isBlank c = false

theorem dropWhile_isBlank_eq_self {cs : List Char}
    (h : ∀ c, cs.head? = some c → isBlank c = false) : cs.dropWhile isBlank = cs := by
  cases cs with
  | nil => rfl
  | cons c cs => exact List.dropWhile_cons_of_neg (by simp [h c rfl])

/-- What is left when white space is dropped does not begin in it. -/
theorem isBlank_of_head?_dropWhile {cs : List Char} {c : Char}
    (h : (cs.dropWhile isBlank).head? = some c) : isBlank c = false := by
  have hhead := List.head?_dropWhile_not isBlank cs
  rwa [h] at hhead

theorem trimEnd_prefix_self (cs : List Char) : trimEnd cs <+: cs := by
  rw [← List.reverse_suffix, trimEnd, List.reverse_reverse]
  exact List.dropWhile_suffix isBlank

theorem mem_of_mem_trim {s : String} {c : Char} (h : c ∈ (trim s).toList) : c ∈ s.toList := by
  rw [trim, String.toList_ofList] at h
  exact (List.dropWhile_suffix isBlank).subset ((trimEnd_prefix_self _).subset h)

theorem tight_trim (s : String) : Tight (trim s).toList := by
  rw [trim, String.toList_ofList]
  constructor
  · intro c hc
    obtain ⟨rest, hrest⟩ := trimEnd_prefix_self (s.toList.dropWhile isBlank)
    have hhead : (s.toList.dropWhile isBlank).head? = some c := by
      rw [← hrest, List.head?_append, hc, Option.some_or]
    exact isBlank_of_head?_dropWhile hhead
  · intro c hc
    rw [trimEnd, List.getLast?_reverse] at hc
    exact isBlank_of_head?_dropWhile hc

/-- **Trimming leaves exactly the tight texts alone.** -/
theorem trim_eq_self_iff {s : String} : trim s = s ↔ Tight s.toList := by
  constructor
  · intro h
    rw [← h]
    exact tight_trim s
  · rintro ⟨hhead, hlast⟩
    have hend : s.toList.reverse.dropWhile isBlank = s.toList.reverse :=
      dropWhile_isBlank_eq_self fun c hc => hlast c (by rwa [List.head?_reverse] at hc)
    rw [trim, dropWhile_isBlank_eq_self hhead, trimEnd, hend, List.reverse_reverse,
      String.ofList_toList]

/-! ## Separators -/

/-- The ranges of the characters that lists are cut and trimmed at: the comma and white space. -/
def separatorRanges : List CodeRange := ⟨0x2C, 0x2C⟩ :: blankRanges

/-- The character is a comma or white space. -/
def isSeparator (c : Char) : Bool := inRanges separatorRanges c

theorem isSeparator_comma : isSeparator ',' = true := by decide

theorem isSeparator_of_isBlank {c : Char} (h : isBlank c = true) : isSeparator c = true := by
  rw [isBlank, inRanges_iff] at h
  obtain ⟨r, hr, hc⟩ := h
  exact inRanges_iff.2 ⟨r, List.mem_cons_of_mem _ hr, hc⟩

/-- The images of the run do not meet the range. -/
def CaseShift.spares (r : CaseShift) (q : CodeRange) : Bool :=
  Nat.blt (r.image + (r.last - r.first)) q.first || Nat.blt q.last r.image

/-- No letter has a lower case that is a separator. -/
def shiftsSpareSeparators : Bool := caseShifts.all fun r => separatorRanges.all r.spares

theorem shiftsSpareSeparators_eq_true : shiftsSpareSeparators = true := by decide +kernel

/-- A separator that is written for one character is that character. -/
theorem lowerChar_eq_self {c : Char} (h : isSeparator (lowerChar c) = true) : lowerChar c = c := by
  rcases lowerChar_cases c with ⟨hc, -⟩ | ⟨r, hmem, hmoves, htoNat⟩
  · exact hc
  · obtain ⟨hge, hle⟩ := CaseShift.move_mem hmoves
    obtain ⟨q, hq, hfirst, hlast⟩ := inRanges_iff.1 h
    have hrun := List.all_eq_true.1 shiftsSpareSeparators_eq_true r hmem
    have hspares := List.all_eq_true.1 hrun q hq
    simp only [CaseShift.spares, Bool.or_eq_true, Nat.blt_eq] at hspares
    omega

theorem eq_of_mem_lowerBetween {before after : List Char} {c d : Char}
    (h : d ∈ lowerBetween before c after) (hd : isSeparator d = true) : d = c := by
  rw [lowerBetween] at h
  split at h
  · have hsigma : isSeparator 'ς' = false ∧ isSeparator 'σ' = false := by decide
    rw [List.mem_singleton] at h
    split at h <;> simp [h, hsigma] at hd
  · split at h
    · have hdot : isSeparator 'i' = false ∧ isSeparator '\u0307' = false := by decide
      rcases List.mem_cons.1 h with rfl | h
      · simp [hdot] at hd
      · simp [List.mem_singleton.1 h, hdot] at hd
    · rw [List.mem_singleton] at h
      subst h
      exact lowerChar_eq_self hd

theorem mem_of_mem_lowerAfter {before cs : List Char} {d : Char} (h : d ∈ lowerAfter before cs)
    (hd : isSeparator d = true) : d ∈ cs := by
  induction cs generalizing before with
  | nil => cases h
  | cons c cs ih =>
    rcases List.mem_append.1 h with h | h
    · rw [eq_of_mem_lowerBetween h hd]
      exact List.mem_cons_self
    · exact List.mem_cons_of_mem _ (ih h)

/-- **Lowercasing writes a separator only where there was one.** -/
theorem mem_of_mem_lowerChars {cs : List Char} {d : Char} (h : d ∈ lowerChars cs)
    (hd : isSeparator d = true) : d ∈ cs :=
  mem_of_mem_lowerAfter h hd

/-! ## Lowercasing at the ends -/

theorem isBlank_of_mem_lowerBetween {before after : List Char} {c d : Char}
    (h : d ∈ lowerBetween before c after) (hc : isBlank c = false) : isBlank d = false := by
  rw [← Bool.not_eq_true] at hc ⊢
  intro hd
  rw [eq_of_mem_lowerBetween h (isSeparator_of_isBlank hd)] at hd
  exact hc hd

theorem lowerBetween_ne_nil (before : List Char) (c : Char) (after : List Char) :
    lowerBetween before c after ≠ [] := by
  rw [lowerBetween]
  split
  · exact List.cons_ne_nil _ _
  · split <;> exact List.cons_ne_nil _ _

/-- The last character is lowercased at the end. -/
theorem exists_lowerAfter_concat (before cs : List Char) (c : Char) :
    ∃ start before', lowerAfter before (cs ++ [c]) = start ++ lowerBetween before' c [] := by
  induction cs generalizing before with
  | nil => exact ⟨[], before, List.append_nil _⟩
  | cons b cs ih =>
    obtain ⟨start, before', h⟩ := ih (b :: before)
    refine ⟨lowerBetween before b (cs ++ [c]) ++ start, before', ?_⟩
    rw [List.cons_append, lowerAfter, h, List.append_assoc]

/-- **Lowercasing keeps a text tight.** -/
theorem tight_lowerChars {cs : List Char} (h : Tight cs) : Tight (lowerChars cs) := by
  constructor
  · intro d hd
    cases cs with
    | nil => cases hd
    | cons c cs =>
      have hne := lowerBetween_ne_nil [] c cs
      rw [lowerChars, lowerAfter, List.head?_append, List.head?_eq_some_head hne,
        Option.some_or] at hd
      obtain rfl := Option.some.inj hd
      exact isBlank_of_mem_lowerBetween (List.head_mem hne) (h.1 c rfl)
  · intro d hd
    rcases List.eq_nil_or_concat cs with rfl | ⟨cs, c, rfl⟩
    · cases hd
    · rw [List.concat_eq_append] at h hd
      obtain ⟨start, before, hlower⟩ := exists_lowerAfter_concat [] cs c
      have hne := lowerBetween_ne_nil before c []
      rw [lowerChars, hlower, List.getLast?_append, List.getLast?_eq_some_getLast hne,
        Option.some_or] at hd
      obtain rfl := Option.some.inj hd
      exact isBlank_of_mem_lowerBetween (List.getLast_mem hne) (h.2 c List.getLast?_concat)

end Text
end IndexShards
