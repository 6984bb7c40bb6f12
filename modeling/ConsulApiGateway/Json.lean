/-
The text of JSON values (`encoding/json`).

`Json.text` is what `json.Marshal` writes: no blanks, strings with the escapes of the encoder,
the fields of an object in their order.  The text determines the value (`Json.text_prefixCode`), so
that texts may be used as keys, and where two values differ is where their texts do.

* `escapeChar_prefixCode`, `stringText_prefixCode` — characters and strings;
* `numText_prefixCode` — integers, which are followed by no digit;
* `Json.text_prefixCode` — values, by induction on the value.
-/
import ConsulApiGateway.GoStd
import ConsulApiGateway.PrefixCode

namespace GoStd

/-! ### Strings -/

/-- The four hexadecimal digits of a code unit. -/
def hexDigits (n : ℕ) : List Char :=
  [Nat.digitChar (n / 4096 % 16), Nat.digitChar (n / 256 % 16), Nat.digitChar (n / 16 % 16),
    Nat.digitChar (n % 16)]

/-- A character inside a string.  Besides control characters the encoder escapes what could end a
script in HTML. -/
def escapeChar (c : Char) : List Char :=
  if c = '"' ∨ c = '\\' then ['\\', c]
  else if c = '\n' then ['\\', 'n']
  else if c = '\r' then ['\\', 'r']
  else if c = '\t' then ['\\', 't']
  else if c.toNat < 0x20 ∨ c = '<' ∨ c = '>' ∨ c = '&' ∨ c.toNat = 0x2028 ∨ c.toNat = 0x2029 then
    '\\' :: 'u' :: hexDigits c.toNat
  else [c]

def stringText (s : String) : List Char := '"' :: (s.toList.flatMap escapeChar ++ ['"'])

/-- The value of a hexadecimal digit in lower case. -/
def hexValue (c : Char) : ℕ := if c.isDigit then c.toNat - 48 else c.toNat - 87

/-- Reads one character of a string. -/
def unescapeChar : List Char → Option (Char × List Char)
  | '\\' :: 'u' :: a :: b :: c :: d :: rest =>
    some (Char.ofNat (hexValue a * 4096 + hexValue b * 256 + hexValue c * 16 + hexValue d), rest)
  | '\\' :: 'n' :: rest => some ('\n', rest)
  | '\\' :: 'r' :: rest => some ('\r', rest)
  | '\\' :: 't' :: rest => some ('\t', rest)
  | '\\' :: c :: rest => some (c, rest)
  | c :: rest => some (c, rest)
  | [] => none

theorem hexValue_digitChar : ∀ d < 16, hexValue (Nat.digitChar d) = d := by decide

theorem unescapeChar_hexDigits {c : Char} (hc : c.toNat < 65536) (x : List Char) :
    unescapeChar ('\\' :: 'u' :: hexDigits c.toNat ++ x) = some (c, x) := by
  have hvalue : c.toNat / 4096 % 16 * 4096 + c.toNat / 256 % 16 * 256 + c.toNat / 16 % 16 * 16 +
      c.toNat % 16 = c.toNat := by omega
  have hmod : ∀ n, hexValue (Nat.digitChar (n % 16)) = n % 16 := fun n =>
    hexValue_digitChar _ (Nat.mod_lt n (by decide))
  simp only [hexDigits, List.cons_append, List.nil_append, unescapeChar, hmod, hvalue,
    Char.ofNat_toNat]

theorem unescapeChar_escapeChar (c : Char) (x : List Char) :
    unescapeChar (escapeChar c ++ x) = some (c, x) := by
  unfold escapeChar
  split_ifs with h₁ h₂ h₃ h₄ h₅
  · rcases h₁ with rfl | rfl <;> rfl
  · rw [h₂]
    rfl
  · rw [h₃]
    rfl
  · rw [h₄]
    rfl
  · refine unescapeChar_hexDigits ?_ x
    rcases h₅ with h | rfl | rfl | rfl | h | h
    · omega
    · decide
    · decide
    · decide
    · omega
    · omega
  · rw [not_or] at h₁
    rw [List.singleton_append, unescapeChar]
    all_goals simp_all

theorem escapeChar_prefixCode : PrefixCode escapeChar Anything :=
  .of_decode fun c x _ => unescapeChar_escapeChar c x

theorem escapeChar_ne_quote (c : Char) (x y : List Char) : escapeChar c ++ x ≠ '"' :: y := by
  unfold escapeChar
  split_ifs with h₁ <;> simp_all

theorem stringText_prefixCode : PrefixCode stringText Anything := by
  have hword := escapeChar_prefixCode.word escapeChar_ne_quote
  exact (hword.comp fun _ _ => String.toList_inj.1).prepend ['"']

/-! ### Numbers -/

/-- No digit follows. -/
def NoDigit (x : List Char) : Prop := ∀ c ∈ x.head?, ¬ c.isDigit = true

def numText : ℤ → List Char
  | .ofNat n => Nat.toDigits 10 n
  | .negSucc n => '-' :: Nat.toDigits 10 (n + 1)

/-- Reads a natural number to its end. -/
def readDigits (l : List Char) : Option (ℕ × List Char) :=
  some (Nat.ofDigitChars 10 (l.takeWhile Char.isDigit) 0, l.dropWhile Char.isDigit)

theorem isDigit_of_mem_toDigits {n : ℕ} {c : Char} (hc : c ∈ Nat.toDigits 10 n) :
    c.isDigit = true :=
  Nat.isDigit_of_mem_toDigits (by decide) (by decide) hc

theorem readDigits_toDigits (n : ℕ) {x : List Char} (hx : NoDigit x) :
    readDigits (Nat.toDigits 10 n ++ x) = some (n, x) := by
  have hdigits : ∀ c ∈ Nat.toDigits 10 n, c.isDigit = true := fun _ => isDigit_of_mem_toDigits
  have hrest : x.takeWhile Char.isDigit = [] ∧ x.dropWhile Char.isDigit = x := by
    cases x with
    | nil => exact ⟨rfl, rfl⟩
    | cons c x => simp [hx c rfl]
  rw [readDigits, List.takeWhile_append_of_pos hdigits, List.dropWhile_append_of_pos hdigits,
    hrest.1, hrest.2, List.append_nil, Nat.ofDigitChars_toDigits (by decide) (by decide)]

theorem toDigits_prefixCode : PrefixCode (Nat.toDigits 10) NoDigit :=
  .of_decode fun n _ hx => readDigits_toDigits n hx

theorem toDigits_ne_minus (n : ℕ) (x y : List Char) : Nat.toDigits 10 n ++ x ≠ '-' :: y := by
  intro h
  cases hn : Nat.toDigits 10 n with
  | nil => exact Nat.toDigits_ne_nil hn
  | cons c l =>
    rw [hn, List.cons_append, List.cons.injEq] at h
    have hc := isDigit_of_mem_toDigits (hn ▸ List.mem_cons_self : c ∈ Nat.toDigits 10 n)
    rw [h.1] at hc
    revert hc
    decide

theorem numText_prefixCode : PrefixCode numText NoDigit := by
  intro a b x y hx hy heq
  cases a with
  | ofNat m =>
    cases b with
    | ofNat n =>
      obtain ⟨rfl, hxy⟩ := toDigits_prefixCode hx hy heq
      exact ⟨rfl, hxy⟩
    | negSucc n => exact absurd heq (toDigits_ne_minus m x _)
  | negSucc m =>
    cases b with
    | ofNat n => exact absurd heq.symm (toDigits_ne_minus n y _)
    | negSucc n =>
      obtain ⟨hmn, hxy⟩ := toDigits_prefixCode hx hy (List.cons.inj heq).2
      cases hmn
      exact ⟨rfl, hxy⟩

/-! ### Values -/

/-- A value; its numbers are integers. -/
inductive Json
  | null
  | bool (b : Bool)
  | num (n : ℤ)
  | str (s : String)
  | arr (elems : List Json)
  | obj (fields : List (String × Json))

namespace Json

mutual

/-- What `json.Marshal` writes for the value. -/
def text : Json → List Char
  | .null => ['n', 'u', 'l', 'l']
  | .bool b => if b then ['t', 'r', 'u', 'e'] else ['f', 'a', 'l', 's', 'e']
  | .num n => numText n
  | .str s => stringText s
  | .arr [] => ['[', ']']
  | .arr (j :: js) => '[' :: (j.text ++ elemsText js)
  | .obj [] => ['{', '}']
  | .obj (f :: fs) => '{' :: (fieldText f ++ fieldsText fs)

/-- The elements behind the first. -/
def elemsText : List Json → List Char
  | [] => [']']
  | j :: js => ',' :: (j.text ++ elemsText js)

def fieldText : String × Json → List Char
  | (name, j) => stringText name ++ ':' :: j.text

/-- The fields behind the first. -/
def fieldsText : List (String × Json) → List Char
  | [] => ['}']
  | f :: fs => ',' :: (fieldText f ++ fieldsText fs)

end

/-- The kind of a value, which the first character of its text tells. -/
def shape : Json → ℕ
  | .null => 0
  | .str _ => 1
  | .arr _ => 2
  | .obj _ => 3
  | .num _ => 4
  | .bool b => b.toNat + 6

/-- The shape of the values that begin with a character; none begins with a closing bracket. -/
def shapeOf (c : Char) : ℕ :=
  if c = 'n' then 0 else if c = '"' then 1 else if c = '[' then 2 else if c = '{' then 3
  else if c = ']' then 5 else if c = 'f' then 6 else if c = 't' then 7 else 4

theorem numText_head (n : ℤ) : ∃ c t, numText n = c :: t ∧ shapeOf c = 4 := by
  have hshape : ∀ c : Char, c.isDigit = true → shapeOf c = 4 := by
    intro c hc
    have hne : c ≠ 'n' ∧ c ≠ '"' ∧ c ≠ '[' ∧ c ≠ '{' ∧ c ≠ ']' ∧ c ≠ 'f' ∧ c ≠ 't' := by
      refine ⟨?_, ?_, ?_, ?_, ?_, ?_, ?_⟩ <;> rintro rfl <;> revert hc <;> decide
    simp only [shapeOf, hne, if_false]
  cases n with
  | ofNat n =>
    cases hn : Nat.toDigits 10 n with
    | nil => exact absurd hn Nat.toDigits_ne_nil
    | cons c t => exact ⟨c, t, hn, hshape c (isDigit_of_mem_toDigits (hn ▸ List.mem_cons_self))⟩
  | negSucc n => exact ⟨'-', _, rfl, rfl⟩

theorem text_head (j : Json) : ∃ c t, j.text = c :: t ∧ shapeOf c = j.shape := by
  cases j with
  | null => exact ⟨_, _, text.eq_def _, rfl⟩
  | bool b => cases b <;> exact ⟨_, _, text.eq_def _, rfl⟩
  | num n => rw [text]; exact numText_head n
  | str s => exact ⟨'"', _, by rw [text, stringText], rfl⟩
  | arr elems => cases elems <;> exact ⟨'[', _, by rw [text], rfl⟩
  | obj fields => cases fields <;> exact ⟨'{', _, by rw [text], rfl⟩

theorem shape_eq_of_text {a b : Json} {x y : List Char} (h : a.text ++ x = b.text ++ y) :
    a.shape = b.shape := by
  obtain ⟨c, t, ha, hc⟩ := a.text_head
  obtain ⟨d, t', hb, hd⟩ := b.text_head
  rw [ha, hb, List.cons_append, List.cons_append, List.cons.injEq] at h
  rw [← hc, ← hd, h.1]

theorem text_ne_bracket (j : Json) (x y : List Char) : j.text ++ x ≠ ']' :: y := by
  intro h
  obtain ⟨c, t, hj, hc⟩ := j.text_head
  rw [hj, List.cons_append, List.cons.injEq] at h
  rw [h.1] at hc
  cases j <;> cases hc

theorem fieldText_ne_brace (f : String × Json) (x y : List Char) :
    fieldText f ++ x ≠ '}' :: y := by
  cases f with
  | mk name j => simp [fieldText, stringText]

/-- What stands behind an element is no digit. -/
theorem noDigit_elemsText (js : List Json) (x : List Char) : NoDigit (elemsText js ++ x) := by
  intro c hc
  cases js <;> simp [elemsText] at hc <;> subst hc <;> decide

theorem noDigit_fieldsText (fs : List (String × Json)) (x : List Char) :
    NoDigit (fieldsText fs ++ x) := by
  intro c hc
  cases fs <;> simp [fieldsText] at hc <;> subst hc <;> decide

mutual

/-- A text begins with at most one value, if no digit follows it. -/
theorem eq_of_text (a b : Json) {x y : List Char} (hx : NoDigit x) (hy : NoDigit y)
    (h : a.text ++ x = b.text ++ y) : a = b ∧ x = y := by
  -- the first character already tells the constructors apart
  have hshape := shape_eq_of_text h
  cases a with
  | null =>
    cases b <;> cases hshape
    simpa [text] using h
  | bool b₁ =>
    cases b with
    | bool b₂ =>
      obtain rfl : b₁ = b₂ := by
        revert hshape
        cases b₁ <;> cases b₂ <;> decide
      simpa [text] using h
    | _ => cases hshape
  | num m =>
    cases b <;> cases hshape
    rw [text, text] at h
    obtain ⟨rfl, hxy⟩ := numText_prefixCode hx hy h
    exact ⟨rfl, hxy⟩
  | str s =>
    cases b <;> cases hshape
    rw [text, text] at h
    obtain ⟨rfl, hxy⟩ := stringText_prefixCode trivial trivial h
    exact ⟨rfl, hxy⟩
  | arr js =>
    cases b <;> cases hshape
    rename_i ks
    obtain ⟨rfl, hxy⟩ := eq_of_text_arr js ks h
    exact ⟨rfl, hxy⟩
  | obj fs =>
    cases b <;> cases hshape
    rename_i gs
    obtain ⟨rfl, hxy⟩ := eq_of_text_obj fs gs h
    exact ⟨rfl, hxy⟩
termination_by structural a

theorem eq_of_text_arr (js ks : List Json) {x y : List Char}
    (h : (arr js).text ++ x = (arr ks).text ++ y) : js = ks ∧ x = y := by
  cases js with
  | nil =>
    cases ks with
    | nil => simpa [text] using h
    | cons k ks =>
      simp only [text, List.cons_append, List.nil_append, List.append_assoc, List.cons.injEq,
        true_and] at h
      exact absurd h.symm (k.text_ne_bracket _ _)
  | cons j js =>
    cases ks with
    | nil =>
      simp only [text, List.cons_append, List.nil_append, List.append_assoc, List.cons.injEq,
        true_and] at h
      exact absurd h (j.text_ne_bracket _ _)
    | cons k ks =>
      simp only [text, List.cons_append, List.append_assoc, List.cons.injEq, true_and] at h
      obtain ⟨rfl, hrest⟩ := eq_of_text j k (noDigit_elemsText js x) (noDigit_elemsText ks y) h
      obtain ⟨rfl, hxy⟩ := eq_of_elemsText js ks hrest
      exact ⟨rfl, hxy⟩
termination_by structural js

theorem eq_of_elemsText (js ks : List Json) {x y : List Char}
    (h : elemsText js ++ x = elemsText ks ++ y) : js = ks ∧ x = y := by
  cases js with
  | nil => cases ks <;> simp_all [elemsText]
  | cons j js =>
    cases ks with
    | nil => simp [elemsText] at h
    | cons k ks =>
      simp only [elemsText, List.cons_append, List.append_assoc, List.cons.injEq, true_and] at h
      obtain ⟨rfl, hrest⟩ := eq_of_text j k (noDigit_elemsText js x) (noDigit_elemsText ks y) h
      obtain ⟨rfl, hxy⟩ := eq_of_elemsText js ks hrest
      exact ⟨rfl, hxy⟩
termination_by structural js

theorem eq_of_text_obj (fs gs : List (String × Json)) {x y : List Char}
    (h : (obj fs).text ++ x = (obj gs).text ++ y) : fs = gs ∧ x = y := by
  cases fs with
  | nil =>
    cases gs with
    | nil => simpa [text] using h
    | cons g gs =>
      simp only [text, List.cons_append, List.nil_append, List.append_assoc, List.cons.injEq,
        true_and] at h
      exact absurd h.symm (fieldText_ne_brace g _ _)
  | cons f fs =>
    cases gs with
    | nil =>
      simp only [text, List.cons_append, List.nil_append, List.append_assoc, List.cons.injEq,
        true_and] at h
      exact absurd h (fieldText_ne_brace f _ _)
    | cons g gs =>
      simp only [text, List.cons_append, List.append_assoc, List.cons.injEq, true_and] at h
      obtain ⟨rfl, hrest⟩ :=
        eq_of_fieldText f g (noDigit_fieldsText fs x) (noDigit_fieldsText gs y) h
      obtain ⟨rfl, hxy⟩ := eq_of_fieldsText fs gs hrest
      exact ⟨rfl, hxy⟩
termination_by structural fs

theorem eq_of_fieldText (f g : String × Json) {x y : List Char} (hx : NoDigit x) (hy : NoDigit y)
    (h : fieldText f ++ x = fieldText g ++ y) : f = g ∧ x = y := by
  cases f with
  | mk name j =>
    cases g with
    | mk name' k =>
      simp only [fieldText, List.append_assoc, List.cons_append] at h
      obtain ⟨rfl, hrest⟩ := stringText_prefixCode trivial trivial h
      rw [List.cons.injEq] at hrest
      obtain ⟨rfl, hxy⟩ := eq_of_text j k hx hy hrest.2
      exact ⟨rfl, hxy⟩
termination_by structural f

theorem eq_of_fieldsText (fs gs : List (String × Json)) {x y : List Char}
    (h : fieldsText fs ++ x = fieldsText gs ++ y) : fs = gs ∧ x = y := by
  cases fs with
  | nil => cases gs <;> simp_all [fieldsText]
  | cons f fs =>
    cases gs with
    | nil => simp [fieldsText] at h
    | cons g gs =>
      simp only [fieldsText, List.cons_append, List.append_assoc, List.cons.injEq, true_and] at h
      obtain ⟨rfl, hrest⟩ :=
        eq_of_fieldText f g (noDigit_fieldsText fs x) (noDigit_fieldsText gs y) h
      obtain ⟨rfl, hxy⟩ := eq_of_fieldsText fs gs hrest
      exact ⟨rfl, hxy⟩
termination_by structural fs

end

theorem text_prefixCode : PrefixCode text NoDigit :=
  fun a b _ _ hx hy h => eq_of_text a b hx hy h

theorem ofList_text_injective : Function.Injective fun j : Json => String.ofList j.text := by
  intro j k h
  have htext : j.text ++ [] = k.text ++ [] := by
    rw [List.append_nil, List.append_nil]
    exact String.ofList_injective h
  exact (text_prefixCode (by simp [NoDigit]) (by simp [NoDigit]) htext).1

end Json

end GoStd
