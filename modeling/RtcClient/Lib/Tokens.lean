import Mathlib.Data.List.TakeWhile
import Mathlib.Data.Nat.Digits.Defs
import Mathlib.Data.String.Basic
import Mathlib.Tactic.IntervalCases

/-!
# Tokens and numbers of a text

A text is cut at a separator as a `std::getline` loop cuts it: an empty text has no token, and a
separator at the end is not followed by an empty one. A number is read as `strtoull` reads it:
white space, a sign, and then the digits up to the first other character. What is written token
by token, without the separator inside a token, is read back.
-/

namespace RtcClient.Lib

/-- The tokens of a text behind the characters read so far of its first one. -/
def splitFrom (sep : Char) : List Char → List Char → List (List Char)
  | token, [] => if token.isEmpty then [] else [token]
  | token, c :: cs =>
    if c = sep then token :: splitFrom sep [] cs else splitFrom sep (token ++ [c]) cs

/-- The tokens of a text. -/
def split (s : String) (sep : Char) : List String :=
  (splitFrom sep [] s.toList).map String.ofList

/-- The number that the digits stand for. -/
def readDigits (cs : List Char) : Nat := cs.foldl (fun n c ↦ 10 * n + (c.toNat - '0'.toNat)) 0

/-- `isspace` in the C locale. -/
def isSpace (c : Char) : Bool := c == ' ' || (9 ≤ c.toNat && c.toNat ≤ 13)

/-- Whether a number has a minus sign, and what follows its sign. -/
def takeSign : List Char → Bool × List Char
  | '-' :: cs => (true, cs)
  | '+' :: cs => (false, cs)
  | cs => (false, cs)

/-- The number at the start of a text, with whether a minus sign stands before it. -/
def readNumber (s : String) : Option (Bool × Nat) :=
  let (negative, cs) := takeSign (s.toList.dropWhile isSpace)
  match cs.takeWhile Char.isDigit with
  | [] => none
  | ds => some (negative, readDigits ds)

private theorem splitFrom_append (sep : Char) (token cs rest : List Char) (h : sep ∉ cs) :
    splitFrom sep token (cs ++ sep :: rest) = (token ++ cs) :: splitFrom sep [] rest := by
  induction cs generalizing token with
  | nil => simp [splitFrom]
  | cons c cs ih =>
    rw [List.mem_cons, not_or] at h
    rw [List.cons_append, splitFrom, if_neg (Ne.symm h.1), ih (token ++ [c]) h.2]
    simp

private theorem splitFrom_last (sep : Char) (token cs : List Char) (h : sep ∉ cs)
    (hne : token ++ cs ≠ []) : splitFrom sep token cs = [token ++ cs] := by
  induction cs generalizing token with
  | nil =>
    rw [List.append_nil] at hne
    simp [splitFrom, hne]
  | cons c cs ih =>
    rw [List.mem_cons, not_or] at h
    rw [splitFrom, if_neg (Ne.symm h.1), ih (token ++ [c]) h.2 (by simp)]
    simp

/-- Two tokens are read back. -/
theorem split_pair {sep : Char} {a b : String} (ha : sep ∉ a.toList) (hb : sep ∉ b.toList)
    (hne : b ≠ "") : split (a ++ String.singleton sep ++ b) sep = [a, b] := by
  have hb' : ([] : List Char) ++ b.toList ≠ [] := by simpa using hne
  have htext : (a ++ String.singleton sep ++ b).toList = a.toList ++ sep :: b.toList := by simp
  rw [split, htext, splitFrom_append sep [] _ _ ha, splitFrom_last sep [] _ hb hb']
  simp

private theorem isDigit_of_mem_repr {n : Nat} {c : Char} (h : c ∈ (toString n).toList) :
    c.isDigit := by
  rw [Nat.toString_eq_repr, Nat.toList_repr] at h
  exact Nat.isDigit_of_mem_toDigits (by decide) (by decide) h

/-- A number does not contain a separator. -/
theorem sep_notMem_repr {sep : Char} (h : sep.isDigit = false) (n : Nat) :
    sep ∉ (toString n).toList := by
  intro hmem
  rw [isDigit_of_mem_repr hmem] at h
  cases h

private theorem readDigits_append (cs : List Char) (c : Char) :
    readDigits (cs ++ [c]) = 10 * readDigits cs + (c.toNat - '0'.toNat) := by
  simp [readDigits]

private theorem readDigits_repr (n : Nat) : readDigits (toString n).toList = n := by
  rw [Nat.toString_eq_repr]
  induction n using Nat.strongRecOn with
  | ind n ih =>
    by_cases h : n < 10
    · rw [Nat.repr_of_lt h]
      have hd : n.digitChar.toNat - '0'.toNat = n := by
        interval_cases n <;> rfl
      simpa [readDigits] using hd
    · have hge : 10 ≤ n := by omega
      have hlt : n % 10 < 10 := Nat.mod_lt _ (by decide)
      have hd : (n % 10).digitChar.toNat - '0'.toNat = n % 10 := by
        generalize n % 10 = d at hlt
        interval_cases d <;> rfl
      rw [Nat.repr_of_ge hge, String.toList_append, String.toList_singleton, readDigits_append,
        ih (n / 10) (by omega), hd]
      omega

-- a digit is neither white space nor a sign
private theorem isSpace_of_isDigit {c : Char} (h : c.isDigit) : isSpace c = false := by
  have hge : 48 ≤ c.toNat := by
    simp only [Char.isDigit, Bool.and_eq_true, decide_eq_true_eq] at h
    exact h.1
  have hne : c ≠ ' ' := by
    rintro rfl
    exact absurd hge (by decide)
  simp only [isSpace, beq_eq_false_iff_ne.mpr hne, Bool.false_or, Bool.and_eq_false_iff,
    decide_eq_false_iff_not]
  omega

private theorem takeSign_of_isDigit {c : Char} (h : c.isDigit) (cs : List Char) :
    takeSign (c :: cs) = (false, c :: cs) := by
  unfold takeSign
  split
  · next he => cases (List.cons.inj he).1; cases h
  · next he => cases (List.cons.inj he).1; cases h
  · rfl

/-- A number that is written is read back. -/
theorem readNumber_repr (n : Nat) : readNumber (toString n) = some (false, n) := by
  have hdigits (c : Char) (hc : c ∈ (toString n).toList) : c.isDigit := isDigit_of_mem_repr hc
  have hread := readDigits_repr n
  have hne : (toString n).toList ≠ [] := by
    rw [Nat.toString_eq_repr]
    simp
  rw [readNumber]
  generalize (toString n).toList = cs at *
  cases cs with
  | nil => exact absurd rfl hne
  | cons c cs =>
    have hc := hdigits c (by simp)
    rw [List.dropWhile_cons_of_neg (by simp [isSpace_of_isDigit hc]), takeSign_of_isDigit hc]
    simp only [List.takeWhile_eq_self_iff.mpr hdigits, hread]

/-- Different numbers are written differently. -/
theorem toString_injective {m n : Nat} (h : toString m = toString n) : m = n := by
  rw [← readDigits_repr m, h, readDigits_repr]

end RtcClient.Lib
