/-
Functions of the Go standard library.

* `hash/crc32` — the IEEE checksum;
* `strconv` — `formatUint`, `atoi` and `quote`;
* `strings` — `trimSpace` and `split` at a character;
* `sort` — `sliceStable`, a stable sort by a strict order.

Strings are sequences of characters here and of bytes in Go; what counts bytes
goes through their UTF-8 encoding.
-/
import Mathlib.Data.List.Sort

namespace GoStd

/-- `[]byte(s)`. -/
def bytes (s : String) : List UInt8 := s.toList.flatMap String.utf8EncodeChar

theorem bytes_append (s t : String) : bytes (s ++ t) = bytes s ++ bytes t := by
  rw [bytes, String.toList_append, List.flatMap_append]
  rfl

/-! ### hash/crc32 -/

/-- One bit of the division by the reversed IEEE polynomial. -/
def crc32Shift (crc : UInt32) : UInt32 :=
  if crc &&& 1 = 1 then (crc >>> 1) ^^^ 0xEDB88320 else crc >>> 1

def crc32Byte (crc : UInt32) (byte : UInt8) : UInt32 :=
  Nat.iterate crc32Shift 8 (crc ^^^ byte.toUInt32)

/-- `crc32.ChecksumIEEE`. -/
def crc32IEEE (bytes : List UInt8) : UInt32 :=
  bytes.foldl crc32Byte 0xFFFFFFFF ^^^ 0xFFFFFFFF

/-! ### strconv -/

/-- `strconv.FormatUint`, for the bases up to 16. -/
def formatUint (n base : ℕ) : String := String.ofList (Nat.toDigits base n)

/-- No digit is a hyphen. -/
theorem hyphen_notMem_toDigits (base n : ℕ) : '-' ∉ Nat.toDigits base n := by
  suffices hsuff : ∀ (fuel n : ℕ) (ds : List Char), '-' ∉ ds →
      '-' ∉ Nat.toDigitsCore base fuel n ds from hsuff _ _ _ List.not_mem_nil
  intro fuel
  induction fuel with
  | zero => exact fun n ds hds => hds
  | succ fuel ih =>
    intro n ds hds
    have hcons : '-' ∉ Nat.digitChar (n % base) :: ds := by
      rw [List.mem_cons, not_or]
      exact ⟨(Nat.digitChar_ne '-' (by decide)).symm, hds⟩
    rw [Nat.toDigitsCore]
    split_ifs
    · exact hcons
    · exact ih _ _ hcons

/-- A number is determined by its decimal digits. -/
theorem decimal_inj {m n : ℕ} (h : (toString m).toList = (toString n).toList) : m = n := by
  have hdigits : ∀ n : ℕ, (toString n).toList = Nat.toDigits 10 n := by
    intro n
    change n.repr.toList = _
    rw [Nat.repr_eq_ofList_toDigits, String.toList_ofList]
  rw [hdigits, hdigits] at h
  rw [← Nat.ofDigitChars_toDigits (b := 10) (n := m) (by decide) (by decide), h,
    Nat.ofDigitChars_toDigits (by decide) (by decide)]

/-- The value of a non-empty list of decimal digits. -/
def digits? : List Char → Option ℕ
  | [] => none
  | cs => cs.foldl (fun n? c =>
      n?.bind fun n => if c.isDigit then some (10 * n + (c.toNat - '0'.toNat)) else none) (some 0)

/-- `strconv.Atoi`, where an `int` has 64 bits. -/
def atoi (s : String) : Option ℤ :=
  let value? : Option ℤ := match s.toList with
    | '-' :: cs => (digits? cs).map fun n => -(n : ℤ)
    | '+' :: cs => (digits? cs).map fun n => (n : ℤ)
    | cs => (digits? cs).map fun n => (n : ℤ)
  value?.filter fun n => -9223372036854775808 ≤ n ∧ n ≤ 9223372036854775807

/-- A character between double quotes; those outside ASCII are taken as
printable. -/
def quoteChar (c : Char) : List Char :=
  if c = '"' ∨ c = '\\' then ['\\', c]
  else if c = '\x07' then ['\\', 'a']
  else if c = '\x08' then ['\\', 'b']
  else if c = '\x0c' then ['\\', 'f']
  else if c = '\n' then ['\\', 'n']
  else if c = '\r' then ['\\', 'r']
  else if c = '\t' then ['\\', 't']
  else if c = '\x0b' then ['\\', 'v']
  else if c.toNat < 0x20 ∨ c.toNat = 0x7F then
    ['\\', 'x', Nat.digitChar (c.toNat / 16), Nat.digitChar (c.toNat % 16)]
  else [c]

/-- `strconv.Quote`, the verb `%q`. -/
def quote (s : String) : String :=
  "\"" ++ String.ofList (s.toList.flatMap quoteChar) ++ "\""

/-! ### strings -/

/-- `unicode.IsSpace`. -/
def isSpace (c : Char) : Bool :=
  c.toNat ∈ [0x09, 0x0A, 0x0B, 0x0C, 0x0D, 0x20, 0x85, 0xA0, 0x1680, 0x2028, 0x2029, 0x202F,
    0x205F, 0x3000] ∨ 0x2000 ≤ c.toNat ∧ c.toNat ≤ 0x200A

def trimSpace (s : String) : String :=
  String.ofList (((s.toList.dropWhile isSpace).reverse.dropWhile isSpace).reverse)

/-- `strings.Split` at a separator of one character. -/
def split (s : String) (sep : Char) : List String :=
  (s.toList.splitOn sep).map String.ofList

/-! ### Calls that may fail -/

section Except

variable {ε α β : Type}

theorem map_eq_ok {x : Except ε α} {f : α → β} {b : β} (h : x.map f = .ok b) :
    ∃ a, x = .ok a ∧ f a = b := by
  cases x with
  | error err => cases h
  | ok a => exact ⟨a, rfl, Except.ok.inj h⟩

theorem bind_eq_ok {x : Except ε α} {f : α → Except ε β} {b : β} (h : (x >>= f) = .ok b) :
    ∃ a, x = .ok a ∧ f a = .ok b := by
  cases x with
  | error err => cases h
  | ok a => exact ⟨a, rfl, h⟩

theorem mapError_eq_ok {ε' : Type} {x : Except ε α} {f : ε → ε'} {a : α}
    (h : x.mapError f = .ok a) : x = .ok a := by
  cases x with
  | error err => cases h
  | ok a => exact congrArg _ (Except.ok.inj h)

theorem toOption_eq_some_iff {x : Except ε α} {a : α} : x.toOption = some a ↔ x = .ok a := by
  cases x with
  | error err => simp [Except.toOption]
  | ok b => simp [Except.toOption]

end Except

/-! ### sort -/

/-- `sort.SliceStable`: of two elements neither of which is less, the earlier one
stays in front. -/
def sliceStable {α : Type*} (less : α → α → Bool) (l : List α) : List α :=
  l.insertionSort fun a b => ¬ less b a

end GoStd
