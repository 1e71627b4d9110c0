import IndexShards.Json.Token
import Mathlib.Data.List.Chain

/-!
# Reading tokens that were written

Tokens are written with nothing in between, and most of them end where they end: a bracket, a word
and a string are read back whatever stands behind them.  A number does not, for it goes on as long
as there are characters that can stand in one.  But no other token begins with such a character, so
it is enough that no number stands right behind another.

## What is here

* `exists_ofChars?_toString` — a whole number is read back from its digits.
* `readString?_escaped` — a string is read back, whatever its characters.
* `Token.IsWritten` — the token is one that can be written; of all tokens only a number may be none.
* `Token.next?_chars` — **a token is read back**, if no number goes on behind it.
* `Apart` — two tokens are not both numbers.
* `tokens?_flatMap_chars` — **all tokens are read back**, if no two numbers meet.
-/

set_option autoImplicit false

namespace IndexShards
namespace Json

/-! ## Whole numbers -/

/-- Characters that belong together are taken off the front if what follows them does not begin
with one that belongs to them. -/
theorem takeWhile_append_and_dropWhile_append {P : Char → Bool} {ds rest : List Char}
    (hds : ∀ d ∈ ds, P d = true) (hrest : rest.head?.any P = false) :
    (ds ++ rest).takeWhile P = ds ∧ (ds ++ rest).dropWhile P = rest := by
  rw [List.takeWhile_append_of_pos hds, List.dropWhile_append_of_pos hds]
  cases rest with
  | nil => exact ⟨List.append_nil ds, rfl⟩
  | cons c rest =>
    have hc : ¬P c = true := by simpa using hrest
    rw [List.takeWhile_cons_of_neg hc, List.dropWhile_cons_of_neg hc]
    exact ⟨List.append_nil ds, rfl⟩

theorem ofDigits_toDigits (n : Nat) : ofDigits (Nat.toDigits 10 n) = n :=
  Nat.ofDigitChars_ten_toDigits

theorem isDigit_of_mem_toDigits {n : Nat} {c : Char} (h : c ∈ Nat.toDigits 10 n) :
    c.isDigit = true :=
  Nat.isDigit_of_mem_toDigits (by decide) (by decide) h

/-- Only the digits of zero start with a zero. -/
theorem eq_zero_of_head?_toDigits {n : Nat} (h : (Nat.toDigits 10 n).head? = some '0') :
    n = 0 := by
  induction n using Nat.strongRecOn with
  | ind n ih =>
    by_cases hlt : n < 10
    · rw [Nat.toDigits_of_lt_base hlt] at h
      exact Nat.digitChar_eq_zero.1 (Option.some.inj h)
    · have hle : 10 ≤ n := Nat.not_lt.1 hlt
      rw [Nat.toDigits_of_base_le (by decide) hle, List.head?_append] at h
      cases hhead : (Nat.toDigits 10 (n / 10)).head? with
      | none => exact absurd (List.head?_eq_none_iff.1 hhead) Nat.toDigits_ne_nil
      | some c =>
        rw [hhead, Option.some_or] at h
        have hzero := ih (n / 10) (by omega) (hhead.trans h)
        omega

/-- The digits of a number are all read as what stands before the point. -/
theorem readUnsigned?_toDigits (negative : Bool) (n : Nat) :
    readUnsigned? negative (Nat.toDigits 10 n) =
      some ⟨negative, Nat.toDigits 10 n, none, none⟩ := by
  have hdigits : readDigits? (Nat.toDigits 10 n) = some (Nat.toDigits 10 n, []) := by
    obtain ⟨htake, hdrop⟩ := takeWhile_append_and_dropWhile_append (P := Char.isDigit)
      (fun d (hd : d ∈ Nat.toDigits 10 n) => isDigit_of_mem_toDigits hd)
      (rfl : ([] : List Char).head?.any Char.isDigit = false)
    rw [List.append_nil] at htake hdrop
    rw [readDigits?, htake, hdrop]
    cases hds : Nat.toDigits 10 n with
    | nil => exact absurd hds Nat.toDigits_ne_nil
    | cons d ds => rfl
  have hzero : ¬((Nat.toDigits 10 n).head? = some '0' ∧ (Nat.toDigits 10 n).length ≠ 1) := by
    rintro ⟨hhead, hlength⟩
    rw [eq_zero_of_head?_toDigits hhead] at hlength
    exact hlength rfl
  rw [readUnsigned?, readWhole?, hdigits]
  simp only [if_neg hzero]
  rfl

/-- Digits alone are a number without a sign. -/
theorem ofChars?_toDigits (n : Nat) : NumberText.ofChars? (Nat.toDigits 10 n) =
    some ⟨false, Nat.toDigits 10 n, none, none⟩ := by
  rw [NumberText.ofChars?.eq_def]
  split
  · next cs hcs =>
    have hminus : '-' ∈ Nat.toDigits 10 n := by simp [hcs]
    exact absurd (isDigit_of_mem_toDigits hminus) (by decide)
  · exact readUnsigned?_toDigits false n

/-- **A whole number is read back from its digits.** -/
theorem exists_ofChars?_toString (n : Int) :
    ∃ t, NumberText.ofChars? (toString n).toList = some t ∧ t.int? = some n := by
  rw [Int.toString_eq_repr, Int.repr_eq_if]
  split
  · next h =>
    rw [Nat.toList_repr, ofChars?_toDigits]
    refine ⟨_, rfl, ?_⟩
    rw [NumberText.int?, ofDigits_toDigits, if_neg (by simp), Int.toNat_of_nonneg h]
  · next h =>
    have hpos : (-n).toNat ≠ 0 := by omega
    rw [String.toList_append, Nat.toList_repr]
    refine ⟨_, readUnsigned?_toDigits true _, ?_⟩
    rw [NumberText.int?, ofDigits_toDigits, if_pos rfl, if_neg hpos]
    exact congrArg some (by omega)

theorem inNumber_of_mem_toString {n : Int} {c : Char} (h : c ∈ (toString n).toList) :
    inNumber c = true := by
  have hdigit : ∀ {m : Nat}, c ∈ Nat.toDigits 10 m → inNumber c = true := fun hc => by
    simp [inNumber, isDigit_of_mem_toDigits hc]
  rw [Int.toString_eq_repr, Int.repr_eq_if] at h
  split at h
  · rw [Nat.toList_repr] at h
    exact hdigit h
  · rw [String.toList_append, Nat.toList_repr] at h
    rcases List.mem_append.1 h with hminus | hc
    · obtain rfl : c = '-' := by simpa using hminus
      rfl
    · exact hdigit hc

/-! ## Strings -/

/-- The piece that a written character is read as: the controls that have no letter of their own
come as numbers. -/
def pieceOf (c : Char) : StringPiece :=
  if c.toNat < 0x20 ∧ c ∉ ['\x08', '\x0c', '\n', '\r', '\t'] then .unit c.toNat else .char c

theorem unitOf?_twoHexDigits : ∀ n < 0x20,
    unitOf? '0' '0' (Nat.digitChar (n / 16)) (Nat.digitChar (n % 16)) = some n := by
  decide

/-- **A written character is read back, whatever stands behind it.** -/
theorem readPieces?_escapedChar (c : Char) (rest : List Char) :
    readPieces? (escapedChar c ++ rest) =
      (readPieces? rest).map fun (ps, rest) => (pieceOf c :: ps, rest) := by
  unfold escapedChar
  split
  · next h => subst h; rfl
  split
  · next h => subst h; rfl
  split
  · next h => subst h; rfl
  split
  · next h => subst h; rfl
  split
  · next h => subst h; rfl
  split
  · next h => subst h; rfl
  split
  · next h => subst h; rfl
  split
  · next hb hf hn hr ht hcontrol =>
    have hpiece : pieceOf c = .unit c.toNat := if_pos ⟨hcontrol, by simp [hb, hf, hn, hr, ht]⟩
    rw [hpiece]
    simp only [twoHexDigits, List.cons_append, List.nil_append, readPieces?,
      unitOf?_twoHexDigits _ hcontrol]
  · next hquote hback hb hf hn hr ht hcontrol =>
    have hpiece : pieceOf c = .char c := if_neg fun h => hcontrol h.1
    rw [hpiece, List.singleton_append, readPieces?.eq_def]
    split
    · next hnil => cases hnil
    · next hcons => exact absurd (List.cons.inj hcons).1 hquote
    · next hcons => exact absurd (List.cons.inj hcons).1 hback
    · next hcons => exact absurd (List.cons.inj hcons).1 hback
    · next hcons =>
      obtain ⟨rfl, rfl⟩ := List.cons.inj hcons
      exact if_neg fun h => h.elim hcontrol hback

/-- The pieces of characters stand for the characters. -/
theorem charsOf?_map_pieceOf (cs : List Char) : charsOf? (cs.map pieceOf) = some cs := by
  induction cs with
  | nil => rfl
  | cons c cs ih =>
    rw [List.map_cons, pieceOf]
    split
    · next h =>
      have hhigh : isHighHalf c.toNat = false := by simp [isHighHalf]; omega
      have hlow : isLowHalf c.toNat = false := by simp [isLowHalf]; omega
      rw [charsOf?.eq_def]
      simp only [hhigh, hlow, ih, Bool.false_eq_true, if_false, Option.map_some,
        Char.ofNat_toNat]
    · rw [charsOf?, ih]
      rfl

/-- **A string is read back, whatever its characters.** -/
theorem readString?_escaped (cs rest : List Char) :
    readString? (cs.flatMap escapedChar ++ '"' :: rest) = some (some (String.ofList cs), rest) := by
  have hpieces : readPieces? (cs.flatMap escapedChar ++ '"' :: rest) =
      some (cs.map pieceOf, rest) := by
    induction cs with
    | nil => rfl
    | cons c cs ih =>
      rw [List.flatMap_cons, List.append_assoc, readPieces?_escapedChar, ih]
      rfl
  rw [readString?, hpieces]
  simp only [Option.map_some, charsOf?_map_pieceOf]

/-! ## Tokens -/

/-- The token is one that can be written: if it is a number, its text is one. -/
def Token.IsWritten : Token → Prop
  | .number text => (NumberText.ofChars? text.toList).isSome ∧ ∀ c ∈ text.toList, inNumber c = true
  | _ => True

/-- The token is a number. -/
def Token.isNumber : Token → Bool
  | .number _ => true
  | _ => false

/-- A number is read back, if it does not go on behind it. -/
theorem Token.next?_chars_number {text : String} (h : (Token.number text).IsWritten)
    {rest : List Char} (hrest : rest.head?.any inNumber = false) :
    Token.next? (text.toList ++ rest) = some (.number text, rest) := by
  obtain ⟨hnumber, hall⟩ := h
  have hread : readNumber? (text.toList ++ rest) = some (.number text, rest) := by
    obtain ⟨htake, hdrop⟩ := takeWhile_append_and_dropWhile_append hall hrest
    obtain ⟨t, ht⟩ := Option.isSome_iff_exists.1 hnumber
    rw [readNumber?, htake, hdrop, ht, String.ofList_toList]
    rfl
  have hhead : ∀ c cs, text.toList ++ rest = c :: cs → inNumber c = true := by
    intro c cs hcs
    cases htext : text.toList with
    | nil => rw [htext] at hnumber; cases hnumber
    | cons d ds =>
      rw [htext] at hcs hall
      obtain rfl := (List.cons.inj hcs).1
      exact hall d (by simp)
  rw [Token.next?.eq_def]
  split
  all_goals first
    | exact hread
    | next hcs => exact absurd (hhead _ _ hcs) (by decide)

/-- **A token is read back**, if no number goes on behind it. -/
theorem Token.next?_chars {t : Token} (h : t.IsWritten) {rest : List Char}
    (hrest : t.isNumber = true → rest.head?.any inNumber = false) :
    Token.next? (t.chars ++ rest) = some (t, rest) := by
  cases t with
  | number text => exact Token.next?_chars_number h (hrest rfl)
  | string text? =>
    cases text? with
    | none => rfl
    | some s =>
      have hread := readString?_escaped s.toList rest
      rw [String.ofList_toList] at hread
      rw [Token.chars, stringChars, List.cons_append, List.cons_append, List.append_assoc]
      exact (congrArg (Option.map _) hread).trans rfl
  | bool b => cases b <;> rfl
  | _ => rfl

theorem isSpace_eq_false_of_inNumber {c : Char} (h : inNumber c = true) : isSpace c = false := by
  cases hspace : isSpace c with
  | false => rfl
  | true =>
    simp only [isSpace, Bool.or_eq_true, beq_iff_eq] at hspace
    rcases hspace with ((rfl | rfl) | rfl) | rfl <;> exact absurd h (by decide)

/-- A written token begins with a character that is no space, and that no number before it can take
for its own unless the token is a number itself. -/
theorem Token.exists_chars_eq_cons {t : Token} (h : t.IsWritten) :
    ∃ c cs, t.chars = c :: cs ∧ isSpace c = false ∧ (t.isNumber = false → inNumber c = false) := by
  cases t with
  | number text =>
    obtain ⟨hnumber, hall⟩ := h
    cases htext : text.toList with
    | nil => rw [htext] at hnumber; cases hnumber
    | cons c cs =>
      have hc : inNumber c = true := hall c (by simp [htext])
      exact ⟨c, cs, htext, isSpace_eq_false_of_inNumber hc, nofun⟩
  | string text? => cases text? <;> exact ⟨_, _, rfl, rfl, fun _ => rfl⟩
  | bool b => cases b <;> exact ⟨_, _, rfl, rfl, fun _ => rfl⟩
  | _ => exact ⟨_, _, rfl, rfl, fun _ => rfl⟩

/-- The two tokens are not both numbers, so the first one ends where it ends. -/
def Apart (t t' : Token) : Prop := t.isNumber = false ∨ t'.isNumber = false

theorem tokensWithin?_flatMap_chars {ts : List Token} (hwritten : ∀ t ∈ ts, t.IsWritten)
    (hapart : ts.IsChain Apart) {fuel : Nat} (hfuel : (ts.flatMap Token.chars).length ≤ fuel) :
    tokensWithin? fuel (ts.flatMap Token.chars) = some ts := by
  induction ts generalizing fuel with
  | nil => cases fuel <;> rfl
  | cons t ts ih =>
    obtain ⟨ht, hts⟩ := List.forall_mem_cons.1 hwritten
    obtain ⟨c, cs, hchars, hspace, -⟩ := Token.exists_chars_eq_cons ht
    -- What stands behind a number is the end of the text or a token of another kind.
    have hbehind : t.isNumber = true → (ts.flatMap Token.chars).head?.any inNumber = false := by
      intro hnumber
      cases ts with
      | nil => rfl
      | cons t' ts =>
        obtain ⟨c', cs', hchars', -, hc'⟩ :=
          Token.exists_chars_eq_cons (hts t' List.mem_cons_self)
        rcases (List.isChain_cons_cons.1 hapart).1 with h | h
        · exact absurd hnumber (by rw [h]; decide)
        · rw [List.flatMap_cons, hchars']
          exact hc' h
    have hnext := Token.next?_chars ht hbehind
    rw [List.flatMap_cons] at hfuel ⊢
    rw [hchars] at hnext hfuel ⊢
    rw [List.cons_append] at hnext hfuel ⊢
    obtain ⟨fuel, rfl⟩ : ∃ n, fuel = n + 1 :=
      Nat.exists_eq_succ_of_ne_zero (Nat.ne_zero_of_lt hfuel)
    have hle : (ts.flatMap Token.chars).length ≤ fuel := by
      rw [List.length_cons, List.length_append] at hfuel
      omega
    rw [tokensWithin?, hspace, hnext]
    simp only [Bool.false_eq_true, if_false, ih hts hapart.tail hle, Option.map_some]

/-- **All tokens are read back**, if no two numbers meet. -/
theorem tokens?_flatMap_chars {ts : List Token} (hwritten : ∀ t ∈ ts, t.IsWritten)
    (hapart : ts.IsChain Apart) : tokens? (ts.flatMap Token.chars) = some ts :=
  tokensWithin?_flatMap_chars hwritten hapart (Nat.le_refl _)

end Json
end IndexShards
