/-!
# Cutting a text at a separator

Column lists are cut at commas and paths at slashes.  Cutting and joining are inverse to each
other, and a piece never holds the separator.

## What is here

* `pieces sep cs` — the stretches of `cs` between the occurrences of `sep`.  There is always one.
* `joined sep ps` — the stretches put together again.
* `joined_pieces`, `pieces_joined` — the two are inverse to each other.
* `commaPieces`, `commaJoined` — the same for texts and commas.
-/

set_option autoImplicit false

namespace IndexShards
namespace Text

/-- The stretches of a text between the occurrences of `sep`.  The empty text is one empty
stretch. -/
def pieces (sep : Char) : List Char → List (List Char)
  | [] => [[]]
  | c :: cs =>
    if c = sep then [] :: pieces sep cs
    else match pieces sep cs with
      | [] => [[c]]
      | p :: ps => (c :: p) :: ps

/-- The stretches with `sep` between any two of them. -/
def joined (sep : Char) : List (List Char) → List Char
  | [] => []
  | [p] => p
  | p :: q :: ps => p ++ sep :: joined sep (q :: ps)

theorem pieces_ne_nil (sep : Char) (cs : List Char) : pieces sep cs ≠ [] := by
  cases cs with
  | nil => simp [pieces]
  | cons c cs =>
    rw [pieces]
    split
    · simp
    · split <;> simp

theorem pieces_cons_sep (sep : Char) (cs : List Char) :
    pieces sep (sep :: cs) = [] :: pieces sep cs := by
  simp [pieces]

theorem joined_cons_cons (sep c : Char) (p : List Char) (ps : List (List Char)) :
    joined sep ((c :: p) :: ps) = c :: joined sep (p :: ps) := by
  cases ps <;> simp [joined]

theorem joined_nil_cons (sep : Char) {ps : List (List Char)} (h : ps ≠ []) :
    joined sep ([] :: ps) = sep :: joined sep ps := by
  cases ps with
  | nil => exact absurd rfl h
  | cons p ps => simp [joined]

theorem joined_append (sep : Char) {ps qs : List (List Char)} (hps : ps ≠ []) (hqs : qs ≠ []) :
    joined sep (ps ++ qs) = joined sep ps ++ sep :: joined sep qs := by
  induction ps with
  | nil => exact absurd rfl hps
  | cons p ps ih =>
    cases ps with
    | nil =>
      cases qs with
      | nil => exact absurd rfl hqs
      | cons q qs => rfl
    | cons r ps =>
      rw [List.cons_append, List.cons_append, joined, joined, ← List.cons_append,
        ih (List.cons_ne_nil r ps), List.append_assoc, List.cons_append]

theorem joined_eq_intercalate (sep : Char) (ps : List (List Char)) :
    joined sep ps = [sep].intercalate ps := by
  induction ps with
  | nil => simp [joined]
  | cons p ps ih =>
    cases ps with
    | nil => simp [joined]
    | cons q ps =>
      rw [joined, ih, List.intercalate_cons_cons, List.append_assoc, List.singleton_append]

/-- Fewer pieces make a text that the longer one begins with. -/
theorem joined_prefix_joined {sep : Char} {ps qs : List (List Char)} (h : ps <+: qs) :
    joined sep ps <+: joined sep qs := by
  obtain ⟨rest, rfl⟩ := h
  cases ps with
  | nil => exact List.nil_prefix
  | cons p ps =>
    cases rest with
    | nil => exact ⟨[], by rw [List.append_nil, List.append_nil]⟩
    | cons r rest =>
      rw [joined_append sep (List.cons_ne_nil p ps) (List.cons_ne_nil r rest)]
      exact List.prefix_append _ _

/-- **Joining undoes cutting.** -/
theorem joined_pieces (sep : Char) (cs : List Char) : joined sep (pieces sep cs) = cs := by
  induction cs with
  | nil => rfl
  | cons c cs ih =>
    rw [pieces]
    split
    · next h => rw [joined_nil_cons sep (pieces_ne_nil sep cs), ih, h]
    · split
      · next h => exact absurd h (pieces_ne_nil sep cs)
      · next p ps h => rw [joined_cons_cons, ← h, ih]

/-- A piece never holds the separator. -/
theorem not_mem_of_mem_pieces {sep : Char} {cs p : List Char} (h : p ∈ pieces sep cs) :
    sep ∉ p := by
  induction cs generalizing p with
  | nil => simp_all [pieces]
  | cons c cs ih =>
    rw [pieces] at h
    split at h
    · rcases List.mem_cons.1 h with rfl | h
      · simp
      · exact ih h
    · next hc =>
      split at h
      · next hn => exact absurd hn (pieces_ne_nil sep cs)
      · next q ps hq =>
        rcases List.mem_cons.1 h with rfl | h
        · have := ih (p := q) (by simp [hq])
          simpa [Ne.symm hc] using this
        · exact ih (by simp [hq, h])

theorem pieces_append_sep {sep : Char} {p : List Char} (hp : sep ∉ p) (cs : List Char) :
    pieces sep (p ++ sep :: cs) = p :: pieces sep cs := by
  induction p with
  | nil => simp [pieces]
  | cons c p ih =>
    have hc : c ≠ sep := fun h => hp (by simp [h])
    have hp' : sep ∉ p := fun h => hp (List.mem_cons_of_mem _ h)
    simp [pieces, hc, ih hp']

theorem pieces_eq_singleton {sep : Char} {p : List Char} (hp : sep ∉ p) : pieces sep p = [p] := by
  induction p with
  | nil => rfl
  | cons c p ih =>
    have hc : c ≠ sep := fun h => hp (by simp [h])
    have hp' : sep ∉ p := fun h => hp (List.mem_cons_of_mem _ h)
    simp [pieces, hc, ih hp']

/-- **Cutting undoes joining**, if no piece holds the separator. -/
theorem pieces_joined {sep : Char} {ps : List (List Char)} (hne : ps ≠ [])
    (h : ∀ p ∈ ps, sep ∉ p) : pieces sep (joined sep ps) = ps := by
  induction ps with
  | nil => exact absurd rfl hne
  | cons p ps ih =>
    cases ps with
    | nil => exact pieces_eq_singleton (h p (by simp))
    | cons q ps =>
      rw [joined, pieces_append_sep (h p (by simp)), ih (by simp)]
      exact fun r hr => h r (List.mem_cons_of_mem _ hr)

/-! ## Texts -/

/-- The stretches of a text between its commas. -/
def commaPieces (s : String) : List String := (pieces ',' s.toList).map String.ofList

/-- The texts with a comma between any two of them. -/
def commaJoined (ss : List String) : String := String.ofList (joined ',' (ss.map String.toList))

theorem commaJoined_eq_intercalate (ss : List String) : commaJoined ss = ",".intercalate ss := by
  rw [← String.toList_inj, commaJoined, String.toList_ofList, joined_eq_intercalate,
    String.toList_intercalate]
  rfl

theorem commaPieces_ne_nil (s : String) : commaPieces s ≠ [] :=
  mt List.map_eq_nil_iff.1 (pieces_ne_nil ',' s.toList)

/-- What stands between the commas holds no comma. -/
theorem not_mem_of_mem_commaPieces {s p : String} (h : p ∈ commaPieces s) : ',' ∉ p.toList := by
  obtain ⟨cs, hcs, rfl⟩ := List.mem_map.1 h
  rw [String.toList_ofList]
  exact not_mem_of_mem_pieces hcs

theorem commaJoined_commaPieces (s : String) : commaJoined (commaPieces s) = s := by
  rw [commaJoined, commaPieces, List.map_map]
  simp [Function.comp_def, joined_pieces]

theorem commaPieces_commaJoined {ss : List String} (hne : ss ≠ [])
    (h : ∀ s ∈ ss, ',' ∉ s.toList) : commaPieces (commaJoined ss) = ss := by
  rw [commaPieces, commaJoined, String.toList_ofList, pieces_joined (by simpa using hne)]
  · simp [Function.comp_def]
  · simpa using h

end Text
end IndexShards
