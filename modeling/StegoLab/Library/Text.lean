import Mathlib.Data.Nat.Digits.Defs
import Mathlib.Data.Nat.Notation

/-!
# Text

Strings cut at separators, and decimal numbers in text.
-/

namespace Text

/-! ### Cutting -/

/-- The characters that `str.strip` removes. -/
def is_space (c : Char) : Bool :=
  let n := c.toNat
  (9 ≤ n && n ≤ 13) || (28 ≤ n && n ≤ 32) || n = 0x85 || n = 0xa0 || n = 0x1680
    || (0x2000 ≤ n && n ≤ 0x200a) || n = 0x2028 || n = 0x2029 || n = 0x202f || n = 0x205f
    || n = 0x3000

/-- `text.strip()`. -/
def strip (text : String) : String :=
  String.ofList ((text.toList.dropWhile is_space).reverse.dropWhile is_space).reverse

/-- What stands before the first separator; the whole text when there is none. -/
def before (separator : Char) (text : String) : String :=
  String.ofList (text.toList.takeWhile (· ≠ separator))

/-- What stands behind the first separator; nothing when there is none. -/
def after (separator : Char) (text : String) : String :=
  String.ofList ((text.toList.dropWhile (· ≠ separator)).drop 1)

/-- What stands behind the last separator: `text.rsplit(separator, 1)[-1]`. -/
def last (separator : Char) (text : String) : String :=
  String.ofList (text.toList.reverse.takeWhile (· ≠ separator)).reverse

/-- `text.lower()` on ASCII text. -/
def lower (text : String) : String :=
  text.map Char.toLower

section Cutting

variable {separator : Char} {text rest : List Char}

lemma before_append (h : separator ∉ text) :
    before separator (String.ofList (text ++ separator :: rest)) = String.ofList text := by
  have hall : ∀ c ∈ text, decide (c ≠ separator) = true :=
    fun c hc => decide_eq_true fun heq => h (heq ▸ hc)
  rw [before, String.toList_ofList, List.takeWhile_append_of_pos hall]
  simp

lemma after_append (h : separator ∉ text) :
    after separator (String.ofList (text ++ separator :: rest)) = String.ofList rest := by
  have hall : ∀ c ∈ text, decide (c ≠ separator) = true :=
    fun c hc => decide_eq_true fun heq => h (heq ▸ hc)
  rw [after, String.toList_ofList, List.dropWhile_append_of_pos hall]
  simp

end Cutting

/-! ### Numbers -/

/-- Nothing but ASCII digits. -/
def plain_number (text : String) : Bool :=
  !text.toList.isEmpty && text.toList.all Char.isDigit

/-- The number that ASCII digits stand for. -/
def number (text : String) : ℕ :=
  Nat.ofDigitChars 10 text.toList 0

variable {n : ℕ}

lemma toList_repr : (toString n).toList = Nat.toDigits 10 n :=
  String.toList_ofList

lemma isDigit_of_mem_repr {c : Char} (h : c ∈ (toString n).toList) : c.isDigit = true :=
  Nat.isDigit_of_mem_toDigits (by decide) (by decide) (toList_repr ▸ h)

lemma plain_number_repr : plain_number (toString n) = true := by
  have hnil : (toString n).toList ≠ [] := by
    rw [toList_repr]
    exact Nat.toDigits_ne_nil
  rw [plain_number, Bool.and_eq_true, List.all_eq_true]
  refine ⟨?_, fun c => isDigit_of_mem_repr⟩
  cases h : (toString n).toList with
  | nil => exact absurd h hnil
  | cons c rest => rfl

lemma number_repr : number (toString n) = n := by
  rw [number, toList_repr, Nat.ofDigitChars_ten_toDigits]

/-- The most digits that `int` reads. -/
def MAXIMUM_DIGITS : ℕ := 4300

/-- `int(text)` on ASCII digits; `none` is its `ValueError`. -/
def int? (text : String) : Option ℕ :=
  if MAXIMUM_DIGITS < text.length then none else some (number text)

lemma int?_repr (h : n < 10 ^ MAXIMUM_DIGITS) : int? (toString n) = some n := by
  have hlength : (toString n).length ≤ MAXIMUM_DIGITS := Nat.repr_length n _ (by decide) h
  rw [int?, if_neg (not_lt.mpr hlength), number_repr]

lemma isSpace_of_isDigit {c : Char} (h : c.isDigit = true) : is_space c = false := by
  have hrange : 48 ≤ c.toNat ∧ c.toNat ≤ 57 := by
    simpa [Char.isDigit, UInt32.le_iff_toNat_le] using h
  simp only [is_space]
  simp
  omega

/-- A number has no blanks around it. -/
lemma strip_repr : strip (toString n) = toString n := by
  have hdrop : ∀ digits : List Char, (∀ c ∈ digits, c.isDigit = true) →
      digits.dropWhile is_space = digits := by
    intro digits hdigits
    cases digits with
    | nil => rfl
    | cons c rest =>
      have hc : is_space c = false := isSpace_of_isDigit (hdigits c List.mem_cons_self)
      rw [List.dropWhile_cons, hc]
      simp
  rw [strip, hdrop _ fun c => isDigit_of_mem_repr,
    hdrop _ fun c hc => isDigit_of_mem_repr (List.mem_reverse.mp hc), List.reverse_reverse,
    String.ofList_toList]

end Text
