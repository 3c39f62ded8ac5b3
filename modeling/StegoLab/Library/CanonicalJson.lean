import Mathlib.Data.List.TakeWhile
import Mathlib.Data.List.Sort
import Mathlib.Data.String.Basic
import Mathlib.Tactic.IntervalCases

/-!
# Canonical JSON

Values are rendered without spaces, with minimal escapes and with the fields of an object in key
order, and end with a line feed. The text determines the value.
-/

namespace CanonicalJson

/-- A JSON value without fractional numbers. -/
inductive Json where
  | null
  | bool (value : Bool)
  | num (value : ℕ)
  | str (value : String)
  | arr (items : List Json)
  | obj (fields : List (String × Json))

/-- An object with its fields in key order. -/
def dict (fields : List (String × Json)) : Json :=
  .obj (fields.insertionSort fun a b => a.1 ≤ b.1)

/-- Equal objects come from the same fields. -/
lemma perm_of_dict_eq {fields fields' : List (String × Json)} (h : dict fields = dict fields') :
    fields.Perm fields' := by
  have hsorted := Json.obj.inj h
  refine (List.perm_insertionSort (fun a b => a.1 ≤ b.1) fields).symm.trans ?_
  rw [hsorted]
  exact List.perm_insertionSort _ _

/-! ### Strings -/

def hex_digit (n : ℕ) : Char :=
  Char.ofNat (if n < 10 then 48 + n else 87 + n)

/-- The letter of the short escape of a control character. -/
def short_escape (n : ℕ) : Option Char :=
  match n with
  | 8 => some 'b'
  | 9 => some 't'
  | 10 => some 'n'
  | 12 => some 'f'
  | 13 => some 'r'
  | _ => none

/-- Quotes, backslashes and control characters are escaped. -/
def escape (c : Char) : List Char :=
  if c = '\x22' then ['\x5c', '\x22']
  else if c = '\x5c' then ['\x5c', '\x5c']
  else if c.toNat < 32 then
    match short_escape c.toNat with
    | some letter => ['\x5c', letter]
    | none => ['\x5c', 'u', '0', '0', hex_digit (c.toNat / 16), hex_digit (c.toNat % 16)]
  else [c]

def render_string (s : String) : List Char :=
  '\x22' :: s.toList.flatMap escape ++ ['\x22']

/-! ### Values -/

mutual

/-- The text of a value. -/
def render : Json → List Char
  | .null => ['n', 'u', 'l', 'l']
  | .bool true => ['t', 'r', 'u', 'e']
  | .bool false => ['f', 'a', 'l', 's', 'e']
  | .num value => Nat.toDigits 10 value
  | .str value => render_string value
  | .arr [] => ['[', ']']
  | .arr (item :: items) => '[' :: (render item ++ render_items items)
  | .obj [] => ['{', '}']
  | .obj ((key, value) :: fields) =>
    '{' :: (render_string key ++ ':' :: (render value ++ render_fields fields))

def render_items : List Json → List Char
  | [] => [']']
  | item :: items => ',' :: (render item ++ render_items items)

def render_fields : List (String × Json) → List Char
  | [] => ['}']
  | (key, value) :: fields =>
    ',' :: (render_string key ++ ':' :: (render value ++ render_fields fields))

end

/-- The UTF-8 bytes of deterministic JSON with one terminal line feed. -/
def canonical_json (value : Json) : ByteArray :=
  ⟨((render value ++ ['\n']).flatMap String.utf8EncodeChar).toArray⟩

/-! ### Reading strings back -/

/-- The character that a short escape stands for. -/
def unescape (letter : Char) : Char :=
  match letter with
  | 'b' => Char.ofNat 8
  | 't' => Char.ofNat 9
  | 'n' => Char.ofNat 10
  | 'f' => Char.ofNat 12
  | 'r' => Char.ofNat 13
  | c => c

def hex_value (c : Char) : ℕ :=
  if c.toNat < 58 then c.toNat - 48 else c.toNat - 87

/-- The first character of an escaped text. -/
def read_char : List Char → Option (Char × List Char)
  | '\x5c' :: 'u' :: '0' :: '0' :: a :: b :: rest =>
    some (Char.ofNat (16 * hex_value a + hex_value b), rest)
  | '\x5c' :: letter :: rest => some (unescape letter, rest)
  | c :: rest => some (c, rest)
  | [] => none

lemma read_char_control : ∀ n < 32, ∀ rest,
    read_char (escape (Char.ofNat n) ++ rest) = some (Char.ofNat n, rest) := by
  intro n hn rest
  interval_cases n <;> rfl

lemma read_char_escape (c : Char) (rest : List Char) :
    read_char (escape c ++ rest) = some (c, rest) := by
  by_cases hcontrol : c.toNat < 32
  · have h := read_char_control c.toNat hcontrol rest
    rwa [Char.ofNat_toNat] at h
  · rw [escape]
    by_cases hquote : c = '\x22'
    · subst hquote
      rfl
    · by_cases hslash : c = '\x5c'
      · subst hslash
        rfl
      · rw [if_neg hquote, if_neg hslash, if_neg hcontrol]
        simp only [List.cons_append, List.nil_append]
        unfold read_char
        split <;> simp_all

/-- An escaped character never starts with a quote. -/
lemma escape_append_ne (c : Char) (rest rest' : List Char) :
    escape c ++ rest ≠ '\x22' :: rest' := by
  intro h
  rw [escape] at h
  split_ifs at h with hquote hslash hcontrol
  · simp at h
  · simp at h
  · cases hshort : short_escape c.toNat <;> simp [hshort] at h
  · rw [List.cons_append, List.nil_append, List.cons.injEq] at h
    exact hquote h.1

lemma escaped_cancel {cs cs' rest rest' : List Char}
    (h : cs.flatMap escape ++ '\x22' :: rest = cs'.flatMap escape ++ '\x22' :: rest') :
    cs = cs' ∧ rest = rest' := by
  induction cs generalizing cs' with
  | nil =>
    cases cs' with
    | nil => simpa using h
    | cons c' cs' =>
      rw [List.flatMap_cons, List.append_assoc] at h
      exact (escape_append_ne _ _ _ h.symm).elim
  | cons c cs ih =>
    rw [List.flatMap_cons, List.append_assoc] at h
    cases cs' with
    | nil => exact (escape_append_ne _ _ _ h).elim
    | cons c' cs' =>
      rw [List.flatMap_cons, List.append_assoc] at h
      have hread := congrArg read_char h
      rw [read_char_escape, read_char_escape, Option.some_inj, Prod.mk.injEq] at hread
      obtain ⟨rfl, htail⟩ := hread
      obtain ⟨rfl, hrest⟩ := ih htail
      exact ⟨rfl, hrest⟩

lemma render_string_cancel {s s' : String} {rest rest' : List Char}
    (h : render_string s ++ rest = render_string s' ++ rest') : s = s' ∧ rest = rest' := by
  simp only [render_string, List.cons_append, List.append_assoc, List.cons.injEq, true_and,
    List.nil_append] at h
  obtain ⟨hs, hrest⟩ := escaped_cancel h
  exact ⟨String.ext hs, hrest⟩

/-! ### Reading values back -/

/-- A text that does not continue a number. -/
def Stops (rest : List Char) : Prop :=
  ∀ c ∈ rest.head?, c.isDigit = false

lemma toDigits_cancel {n n' : ℕ} {rest rest' : List Char} (hrest : Stops rest)
    (hrest' : Stops rest') (h : Nat.toDigits 10 n ++ rest = Nat.toDigits 10 n' ++ rest') :
    n = n' ∧ rest = rest' := by
  have hdigits (n : ℕ) {rest : List Char} (hrest : Stops rest) :
      (Nat.toDigits 10 n ++ rest).takeWhile Char.isDigit = Nat.toDigits 10 n := by
    rw [List.takeWhile_append_of_pos fun c hc =>
      Nat.isDigit_of_mem_toDigits (by decide) (by decide) hc]
    cases rest with
    | nil => simp
    | cons c rest => simp [hrest c (by simp)]
  have heq : Nat.toDigits 10 n = Nat.toDigits 10 n' := by
    rw [← hdigits n hrest, ← hdigits n' hrest', h]
  refine ⟨?_, ?_⟩
  · rw [← @Nat.ofDigitChars_ten_toDigits n, heq, Nat.ofDigitChars_ten_toDigits]
  · rw [heq] at h
    exact List.append_cancel_left h

/-- The kind of value a text starts. -/
def kind_of_char (c : Char) : ℕ :=
  match c with
  | 'n' => 0
  | 't' => 1
  | 'f' => 2
  | '\x22' => 3
  | '[' => 4
  | '{' => 5
  | ']' => 7
  | _ => 6

def kind : Json → ℕ
  | .null => 0
  | .bool true => 1
  | .bool false => 2
  | .str _ => 3
  | .arr _ => 4
  | .obj _ => 5
  | .num _ => 6

lemma kind_of_digit {c : Char} (h : c.isDigit = true) : kind_of_char c = 6 := by
  unfold kind_of_char
  split <;> first | rfl | exact absurd h (by decide)

lemma head_render (value : Json) (rest : List Char) :
    ∃ c tail, render value ++ rest = c :: tail ∧ kind_of_char c = kind value := by
  cases value with
  | null => exact ⟨_, _, rfl, rfl⟩
  | bool value => cases value <;> exact ⟨_, _, rfl, rfl⟩
  | num value =>
    rw [render]
    cases hdigits : Nat.toDigits 10 value with
    | nil => exact absurd hdigits Nat.toDigits_ne_nil
    | cons c cs =>
      refine ⟨c, cs ++ rest, rfl, kind_of_digit ?_⟩
      exact Nat.isDigit_of_mem_toDigits (by decide) (by decide) (hdigits ▸ List.mem_cons_self)
  | str value => exact ⟨_, _, rfl, rfl⟩
  | arr items => cases items <;> exact ⟨_, _, rfl, rfl⟩
  | obj fields =>
    rcases fields with _ | ⟨⟨key, value⟩, fields⟩ <;> exact ⟨_, _, rfl, rfl⟩

lemma kind_eq_of_render {value value' : Json} {rest rest' : List Char}
    (h : render value ++ rest = render value' ++ rest') : kind value = kind value' := by
  obtain ⟨c, tail, hc, hkind⟩ := head_render value rest
  obtain ⟨c', tail', hc', hkind'⟩ := head_render value' rest'
  rw [hc, hc', List.cons.injEq] at h
  rw [← hkind, ← hkind', h.1]

/-- A value does not start with a closing bracket. -/
lemma render_append_ne (value : Json) (rest rest' : List Char) :
    render value ++ rest ≠ ']' :: rest' := by
  intro h
  obtain ⟨c, tail, hc, hkind⟩ := head_render value rest
  rw [h, List.cons.injEq] at hc
  rw [← hc.1] at hkind
  rcases value with _ | (_ | _) | _ | _ | _ | _ <;> simp [kind, kind_of_char] at hkind

lemma stops_items (items : List Json) (rest : List Char) : Stops (render_items items ++ rest) := by
  cases items <;> simp [Stops, render_items]

lemma stops_fields (fields : List (String × Json)) (rest : List Char) :
    Stops (render_fields fields ++ rest) := by
  rcases fields with _ | ⟨⟨key, value⟩, fields⟩ <;> simp [Stops, render_fields]

/-- Texts of one kind are texts of values of one shape. -/
lemma shape_of_kind : ∀ {value value' : Json}, kind value = kind value' →
    match value with
    | .null => value' = .null
    | .bool b => value' = .bool b
    | .num _ => ∃ n, value' = .num n
    | .str _ => ∃ s, value' = .str s
    | .arr _ => ∃ items, value' = .arr items
    | .obj _ => ∃ fields, value' = .obj fields := by
  intro value value' h
  rcases value with _ | (_ | _) | _ | _ | _ | _ <;>
    rcases value' with _ | (_ | _) | _ | _ | _ | _ <;> simp_all [kind]

mutual

/-- The text of a value determines the value and what follows it. -/
theorem render_cancel : ∀ (value value' : Json) {rest rest' : List Char}, Stops rest →
    Stops rest' → render value ++ rest = render value' ++ rest' → value = value' ∧ rest = rest'
  | .null, value', _, _, _, _, h => by
    obtain rfl := shape_of_kind (kind_eq_of_render h)
    exact ⟨rfl, List.append_cancel_left h⟩
  | .bool b, value', _, _, _, _, h => by
    obtain rfl := shape_of_kind (kind_eq_of_render h)
    exact ⟨rfl, List.append_cancel_left h⟩
  | .num n, value', _, _, hrest, hrest', h => by
    obtain ⟨n', rfl⟩ := shape_of_kind (kind_eq_of_render h)
    obtain ⟨rfl, hrest⟩ := toDigits_cancel hrest hrest' h
    exact ⟨rfl, hrest⟩
  | .str s, value', _, _, _, _, h => by
    obtain ⟨s', rfl⟩ := shape_of_kind (kind_eq_of_render h)
    obtain ⟨rfl, hrest⟩ := render_string_cancel h
    exact ⟨rfl, hrest⟩
  | .arr [], value', rest, rest', _, _, h => by
    obtain ⟨items', rfl⟩ := shape_of_kind (kind_eq_of_render h)
    cases items' with
    | nil => exact ⟨rfl, List.append_cancel_left h⟩
    | cons item' items' =>
      simp only [render, List.cons_append, List.cons.injEq, true_and, List.append_assoc] at h
      exact (render_append_ne _ _ _ h.symm).elim
  | .arr (item :: items), value', rest, rest', _, _, h => by
    obtain ⟨items', rfl⟩ := shape_of_kind (kind_eq_of_render h)
    cases items' with
    | nil =>
      simp only [render, List.cons_append, List.cons.injEq, true_and, List.append_assoc] at h
      exact (render_append_ne _ _ _ h).elim
    | cons item' items' =>
      simp only [render, List.cons_append, List.cons.injEq, true_and, List.append_assoc] at h
      obtain ⟨rfl, htail⟩ := render_cancel item item' (stops_items items rest)
        (stops_items items' rest') h
      obtain ⟨rfl, hrest⟩ := render_items_cancel items items' htail
      exact ⟨rfl, hrest⟩
  | .obj [], value', _, _, _, _, h => by
    obtain ⟨fields', rfl⟩ := shape_of_kind (kind_eq_of_render h)
    cases fields' with
    | nil => exact ⟨rfl, List.append_cancel_left h⟩
    | cons field' fields' => simp [render, render_string] at h
  | .obj ((key, value) :: fields), value', rest, rest', _, _, h => by
    obtain ⟨fields', rfl⟩ := shape_of_kind (kind_eq_of_render h)
    cases fields' with
    | nil => simp [render, render_string] at h
    | cons field' fields' =>
      simp only [render, List.cons_append, List.cons.injEq, true_and, List.append_assoc] at h
      obtain ⟨rfl, hvalue⟩ := render_string_cancel h
      rw [List.cons.injEq] at hvalue
      obtain ⟨rfl, htail⟩ := render_cancel value field'.2 (stops_fields fields rest)
        (stops_fields fields' rest') hvalue.2
      obtain ⟨rfl, hrest⟩ := render_fields_cancel fields fields' htail
      exact ⟨rfl, hrest⟩

theorem render_items_cancel : ∀ (items items' : List Json) {rest rest' : List Char},
    render_items items ++ rest = render_items items' ++ rest' → items = items' ∧ rest = rest'
  | [], [], _, _, h => ⟨rfl, List.append_cancel_left h⟩
  | [], item' :: items', _, _, h => by simp [render_items] at h
  | item :: items, [], _, _, h => by simp [render_items] at h
  | item :: items, item' :: items', rest, rest', h => by
    simp only [render_items, List.cons_append, List.cons.injEq, true_and, List.append_assoc] at h
    obtain ⟨rfl, htail⟩ := render_cancel item item' (stops_items items rest)
      (stops_items items' rest') h
    obtain ⟨rfl, hrest⟩ := render_items_cancel items items' htail
    exact ⟨rfl, hrest⟩

theorem render_fields_cancel : ∀ (fields fields' : List (String × Json)) {rest rest' : List Char},
    render_fields fields ++ rest = render_fields fields' ++ rest' →
      fields = fields' ∧ rest = rest'
  | [], [], _, _, h => ⟨rfl, List.append_cancel_left h⟩
  | [], field' :: fields', _, _, h => by simp [render_fields] at h
  | field :: fields, [], _, _, h => by simp [render_fields] at h
  | (key, value) :: fields, (key', value') :: fields', rest, rest', h => by
    simp only [render_fields, List.cons_append, List.cons.injEq, true_and, List.append_assoc] at h
    obtain ⟨rfl, hvalue⟩ := render_string_cancel h
    rw [List.cons.injEq] at hvalue
    obtain ⟨rfl, htail⟩ := render_cancel value value' (stops_fields fields rest)
      (stops_fields fields' rest') hvalue.2
    obtain ⟨rfl, hrest⟩ := render_fields_cancel fields fields' htail
    exact ⟨rfl, hrest⟩

end

/-- Values with the same canonical text are equal. -/
theorem canonical_json_injective : Function.Injective canonical_json := by
  intro value value' h
  have hbytes (text : List Char) :
      (String.ofList text).toByteArray = ⟨(text.flatMap String.utf8EncodeChar).toArray⟩ := by
    rw [String.toByteArray_ofList]
    exact ByteArray.ext List.data_toByteArray
  have htext := String.ofList_injective
    (String.toByteArray_inj.mp (((hbytes _).trans h).trans (hbytes _).symm))
  exact (render_cancel value value' (by simp [Stops]) (by simp [Stops]) htext).1

end CanonicalJson
