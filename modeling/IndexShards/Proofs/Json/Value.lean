import IndexShards.Json.Value
import IndexShards.Proofs.Json.Token

/-!
# Reading a value that was written

The text of a value is the text of its tokens, so two things have to be shown: that the tokens are
read back from their text, for which no two numbers may meet, and that the value is read back from
its tokens.

The second is an induction over the value.  A list of items is read one call deeper for every item,
so what is shown of the items takes what is shown of the first one as a hypothesis, and the fuel
they need is counted together with theirs.

## What is here

* `JsonValue.IsWritten` — every number in the value has the text of one.
* `JsonValue.isChain_tokens` — no two numbers meet in the tokens of a value.
* `JsonValue.readValue?_tokens` — **a value is read back from its tokens**, whatever stands behind
  them.
* `JsonValue.parse?_render` — **a value is read back from its text**.
* `JsonValue.levels` — how many arrays and objects lie one inside the other.
-/

set_option autoImplicit false

namespace IndexShards

open Json

namespace JsonValue

/-! ## Values that can be written -/

/-- Every number in the value has the text of one. -/
def IsWritten (v : JsonValue) : Prop := ∀ t ∈ v.tokens, t.IsWritten

@[simp]
theorem isWritten_null : null.IsWritten := by simp [IsWritten, tokens, Token.IsWritten]

@[simp]
theorem isWritten_bool (b : Bool) : (bool b).IsWritten := by
  simp [IsWritten, tokens, Token.IsWritten]

@[simp]
theorem isWritten_text (s : String) : (text s).IsWritten := by
  simp [IsWritten, text, tokens, Token.IsWritten]

@[simp]
theorem isWritten_int (n : Int) : (int n).IsWritten := by
  obtain ⟨t, ht, -⟩ := exists_ofChars?_toString n
  have hnumber : (Token.number (toString n)).IsWritten :=
    ⟨by rw [ht]; rfl, fun _ => inNumber_of_mem_toString⟩
  simpa [IsWritten, int, tokens] using hnumber

theorem forall_mem_itemTokens {xs : List JsonValue} :
    (∀ t ∈ itemTokens xs, t.IsWritten) ↔ ∀ x ∈ xs, x.IsWritten := by
  induction xs with
  | nil => simp [itemTokens, Token.IsWritten]
  | cons x xs ih =>
    rw [itemTokens, List.cons_append, List.forall_mem_cons, List.forall_mem_append, ih,
      List.forall_mem_cons]
    exact and_iff_right trivial

theorem forall_mem_fieldTokens {f : Option String × JsonValue} :
    (∀ t ∈ fieldTokens f, t.IsWritten) ↔ f.2.IsWritten := by
  rw [fieldTokens, List.forall_mem_cons, List.forall_mem_cons]
  exact ⟨fun h => h.2.2, fun h => ⟨trivial, trivial, h⟩⟩

theorem forall_mem_moreFieldTokens {fs : List (Option String × JsonValue)} :
    (∀ t ∈ moreFieldTokens fs, t.IsWritten) ↔ ∀ f ∈ fs, f.2.IsWritten := by
  induction fs with
  | nil => simp [moreFieldTokens, Token.IsWritten]
  | cons f fs ih =>
    rw [moreFieldTokens, List.cons_append, List.forall_mem_cons, List.forall_mem_append, ih,
      forall_mem_fieldTokens, List.forall_mem_cons]
    exact and_iff_right trivial

@[simp]
theorem isWritten_array {xs : List JsonValue} :
    (array xs).IsWritten ↔ ∀ x ∈ xs, x.IsWritten := by
  cases xs with
  | nil => simp [IsWritten, tokens, Token.IsWritten]
  | cons x xs =>
    rw [IsWritten, tokens, List.cons_append, List.forall_mem_cons, List.forall_mem_append,
      forall_mem_itemTokens, List.forall_mem_cons]
    exact and_iff_right trivial

@[simp]
theorem isWritten_record {fs : List (String × JsonValue)} :
    (record fs).IsWritten ↔ ∀ f ∈ fs, f.2.IsWritten := by
  rw [record]
  cases fs with
  | nil => simp [IsWritten, tokens, Token.IsWritten]
  | cons f fs =>
    rw [List.map_cons, IsWritten, tokens, List.cons_append, List.forall_mem_cons,
      List.forall_mem_append, forall_mem_fieldTokens, forall_mem_moreFieldTokens,
      List.forall_mem_map, List.forall_mem_cons]
    exact and_iff_right trivial

/-! ## No two numbers meet -/

/-- The tokens can stand behind any other: no two numbers meet in them, and none is at the head. -/
def Closing (ts : List Token) : Prop :=
  ts.IsChain Apart ∧ ∀ t ∈ ts.head?, t.isNumber = false

theorem closing_cons {t : Token} {ts : List Token} (ht : t.isNumber = false)
    (hts : ts.IsChain Apart) : Closing (t :: ts) := by
  refine ⟨List.isChain_cons.2 ⟨fun _ _ => Or.inl ht, hts⟩, ?_⟩
  rintro _ ⟨⟩
  exact ht

/-- A token may stand in front of tokens that can stand behind any other. -/
theorem Closing.cons {t : Token} {ts : List Token} (h : Closing ts) : (t :: ts).IsChain Apart :=
  List.isChain_cons.2 ⟨fun t' ht' => Or.inr (h.2 t' ht'), h.1⟩

mutual

theorem isChain_tokens_append : ∀ (v : JsonValue) {rest : List Token}, Closing rest →
    (tokens v ++ rest).IsChain Apart
  | null, _, h | bool _, _, h | number _, _, h | string _, _, h => h.cons
  | array [], _, h => (closing_cons rfl h.1).cons
  | array (x :: xs), _, h => by
    rw [tokens, List.append_assoc]
    exact (closing_cons rfl (isChain_tokens_append x (closing_itemTokens_append xs h))).1
  | object [], _, h => (closing_cons rfl h.1).cons
  | object (f :: fs), _, h => by
    rw [tokens, List.append_assoc]
    exact (closing_fieldTokens_append f (closing_moreFieldTokens_append fs h)).cons

theorem closing_itemTokens_append : ∀ (xs : List JsonValue) {rest : List Token}, Closing rest →
    Closing (itemTokens xs ++ rest)
  | [], _, h => closing_cons rfl h.1
  | x :: xs, _, h => by
    rw [itemTokens, List.append_assoc]
    exact closing_cons rfl (isChain_tokens_append x (closing_itemTokens_append xs h))

theorem closing_fieldTokens_append : ∀ (f : Option String × JsonValue) {rest : List Token},
    Closing rest → Closing (fieldTokens f ++ rest)
  | (_, v), _, h => closing_cons rfl (closing_cons rfl (isChain_tokens_append v h)).1

theorem closing_moreFieldTokens_append : ∀ (fs : List (Option String × JsonValue))
    {rest : List Token}, Closing rest → Closing (moreFieldTokens fs ++ rest)
  | [], _, h => closing_cons rfl h.1
  | f :: fs, _, h => by
    rw [moreFieldTokens, List.append_assoc]
    exact closing_cons rfl (closing_fieldTokens_append f (closing_moreFieldTokens_append fs h)).1

end

/-- No two numbers meet in the tokens of a value. -/
theorem isChain_tokens (v : JsonValue) : v.tokens.IsChain Apart := by
  have h : (v.tokens ++ []).IsChain Apart := isChain_tokens_append v ⟨List.isChain_nil, by simp⟩
  rwa [List.append_nil] at h

/-! ## Reading -/

/-- The value is read back from its tokens, whatever stands behind them. -/
def Reads (v : JsonValue) : Prop :=
  ∀ {fuel : Nat} (rest : List Token), 2 * v.tokens.length ≤ fuel →
    readValue? fuel (v.tokens ++ rest) = some (v, rest)

/-- No value begins with the end of an array. -/
theorem exists_tokens_eq_cons (v : JsonValue) : ∃ t ts, v.tokens = t :: ts ∧ t ≠ .rightBracket := by
  rcases v with _ | _ | _ | _ | (_ | _) | (_ | _) <;> exact ⟨_, _, rfl, nofun⟩

theorem readValue?_leftBracket {fuel : Nat} {t : Token} (ts : List Token) (ht : t ≠ .rightBracket) :
    readValue? (fuel + 1) (.leftBracket :: t :: ts) =
      (readItems? fuel (t :: ts)).map fun (xs, rest) => (.array xs, rest) := by
  rw [readValue?]
  exact fun _ h => ht (List.cons.inj h).1

mutual

/-- **A value is read back from its tokens**, whatever stands behind them. -/
theorem readValue?_tokens : ∀ v : JsonValue, v.Reads
  | null, _ + 1, _, _ | bool _, _ + 1, _, _ | number _, _ + 1, _, _ | string _, _ + 1, _, _ => rfl
  | array [], _ + 1, _, _ | object [], _ + 1, _, _ => rfl
  | array (x :: xs), fuel + 1, rest, hfuel => by
    obtain ⟨t, ts, hx, ht⟩ := exists_tokens_eq_cons x
    rw [tokens, List.cons_append, List.length_cons] at hfuel
    have hitems := readItems?_tokens xs (readValue?_tokens x) rest
      (show 2 * (tokens x ++ itemTokens xs).length < fuel by omega)
    rw [tokens, List.cons_append, List.cons_append]
    rw [hx] at hitems ⊢
    rw [List.cons_append, List.cons_append] at hitems ⊢
    rw [readValue?_leftBracket _ ht, hitems]
    rfl
  | object (f :: fs), fuel + 1, rest, hfuel => by
    obtain ⟨name?, v⟩ := f
    rw [tokens, List.cons_append, List.length_cons] at hfuel
    have hfields := readFields?_tokens fs name? (readValue?_tokens v) rest
      (show 2 * (fieldTokens (name?, v) ++ moreFieldTokens fs).length < fuel by omega)
    exact (congrArg (Option.map _) hfields).trans rfl

theorem readItems?_tokens : ∀ (xs : List JsonValue) {x : JsonValue}, x.Reads →
    ∀ {fuel : Nat} (rest : List Token), 2 * (tokens x ++ itemTokens xs).length < fuel →
      readItems? fuel (tokens x ++ itemTokens xs ++ rest) = some (x :: xs, rest)
  | [], x, hx, fuel + 1, rest, hfuel => by
    rw [List.length_append] at hfuel
    rw [List.append_assoc, readItems?, hx _ (by omega)]
    rfl
  | y :: ys, x, hx, fuel + 1, rest, hfuel => by
    rw [List.length_append, itemTokens, List.cons_append, List.length_cons] at hfuel
    rw [List.append_assoc, readItems?, hx _ (by omega), itemTokens]
    exact (congrArg (Option.map _)
      (readItems?_tokens ys (readValue?_tokens y) rest (by omega))).trans rfl

theorem readFields?_tokens : ∀ (fs : List (Option String × JsonValue)) (name? : Option String)
    {v : JsonValue}, v.Reads → ∀ {fuel : Nat} (rest : List Token),
      2 * (fieldTokens (name?, v) ++ moreFieldTokens fs).length < fuel →
        readFields? fuel (fieldTokens (name?, v) ++ moreFieldTokens fs ++ rest) =
          some ((name?, v) :: fs, rest)
  | [], name?, v, hv, fuel + 1, rest, hfuel => by
    rw [fieldTokens, List.length_append, List.length_cons, List.length_cons] at hfuel
    rw [fieldTokens, List.append_assoc, List.cons_append, List.cons_append, readFields?]
    simp only [hv _ (show 2 * v.tokens.length ≤ fuel by omega)]
    rfl
  | (name'?, w) :: fs, name?, v, hv, fuel + 1, rest, hfuel => by
    rw [fieldTokens, moreFieldTokens, List.length_append, List.length_cons, List.length_cons,
      List.cons_append, List.length_cons] at hfuel
    rw [fieldTokens, List.append_assoc, List.cons_append, List.cons_append, readFields?]
    simp only [hv _ (show 2 * v.tokens.length ≤ fuel by omega)]
    exact (congrArg (Option.map _)
      (readFields?_tokens fs name'? (readValue?_tokens w) rest (by omega))).trans rfl

end

/-- **A value is read back from its text.** -/
theorem parse?_render {v : JsonValue} (h : v.IsWritten) : parse? v.render = some v := by
  have hread := readValue?_tokens v [] (Nat.le_refl (2 * v.tokens.length))
  rw [List.append_nil] at hread
  rw [parse?, render, String.toList_ofList, tokens?_flatMap_chars h v.isChain_tokens,
    Option.bind_some, ofTokens?, hread]

/-! ## How deep a value is nested -/

mutual

/-- How many arrays and objects lie one inside the other. -/
def levels : JsonValue → Nat
  | array items => itemLevels items + 1
  | object fields => fieldLevels fields + 1
  | _ => 0

/-- The levels of the deepest item. -/
def itemLevels : List JsonValue → Nat
  | [] => 0
  | x :: xs => max (levels x) (itemLevels xs)

/-- The levels of the deepest field. -/
def fieldLevels : List (Option String × JsonValue) → Nat
  | [] => 0
  | (_, v) :: fs => max (levels v) (fieldLevels fs)

end

end JsonValue
end IndexShards
